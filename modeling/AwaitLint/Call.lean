import AwaitLint.Service

/-! # The steps of a call

A call draws an identifier and asks the store for a kept result; if it has none, the call analyzes the
text and asks the store to keep the result. Other calls may take their steps between any two of these.
-/

namespace AwaitLint

/-- How far a call has come. -/
inductive Stage
  | asked
  | missed
  | analyzed (result : AnalysisResult)
  /-- The flag tells whether the result was read from the store. -/
  | answered (result : AnalysisResult) (wasKept : Bool)
  deriving DecidableEq, Repr

/-- A call, with the identifier and the digest that it drew when it arrived. -/
structure Call where
  inquiry : Inquiry
  analysisId : String
  codeHash : String
  stage : Stage
  deriving DecidableEq, Repr

namespace Call

/-- The call takes its next step on the service: the look into the store, the analysis, or the write. -/
def advance (settings : Settings) (c : Call) (s : Service) : Call × Service :=
  match c.stage with
  | .asked =>
    let (kept, s) := s.find c.codeHash
    match kept with
    | some r =>
      let answer := Service.reuse ⟨c.inquiry, c.analysisId, c.codeHash, kept⟩ r
      ({ c with stage := .answered answer true }, s)
    | none => ({ c with stage := .missed }, s)
  | .missed =>
    let (r, tickets) := AnalysisResult.compute settings c.analysisId c.inquiry s.tickets
    ({ c with stage := if r.fault.isSome then .answered r false else .analyzed r },
      { s with tickets := tickets, counters := Service.count r s.counters })
  | .analyzed r => ({ c with stage := .answered r false }, (s.keep settings c.codeHash r none).2)
  | .answered _ _ => (c, s)

/-- The next step of what may not have begun yet. -/
def next (settings : Settings) (q : Inquiry) (begun : Option Call) (s : Service) : Call × Service :=
  match begun with
  | some c => c.advance settings s
  | none =>
    let (id, tickets) := s.tickets.draw "an" 12
    (⟨q, id, CodeKey.of settings q.code q.filename, .asked⟩, { s with tickets := tickets })

/-- What the call returned, once it is answered. -/
def result? (c : Call) : Option AnalysisResult :=
  match c.stage with
  | .answered r _ => some r
  | _ => none

end Call

end AwaitLint
