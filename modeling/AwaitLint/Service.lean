import AwaitLint.Counters
import AwaitLint.Json.Reader
import AwaitLint.Json.Writer
import AwaitLint.Result.Codec
import AwaitLint.Store

/-! # The cached service

A call looks for a kept result first; on a miss it analyzes, counts, and keeps the result unless the
text did not parse. A store that does not answer is a miss. The two halves of a call are separate, so
that calls can run side by side.
-/

namespace AwaitLint

namespace AnalysisResult

/-- The text under which a result is kept. -/
def toText (r : AnalysisResult) : String := r.toJson.onlyFinite.compact

/-- The result that a kept text stands for. -/
def ofText? (text : String) : Option AnalysisResult :=
  match Json.read text.toList with
  | .ok j => match decoder .named j with
    | .ok r => some r
    | .bad _ => none
  | .error _ => none

end AnalysisResult

structure Service where
  store : Store := {}
  counters : Counters := {}
  tickets : Tickets
  deriving Repr, Inhabited

/-- A call that has looked for a kept result. -/
structure Pending where
  inquiry : Inquiry
  analysisId : String
  codeHash : String
  kept : Option AnalysisResult
  deriving Repr

namespace Service

def keyOf (codeHash : String) : String := "waterfall:analysis:" ++ codeHash

/-- The readable result under a digest; what cannot be had or read counts as missing. -/
def readable (codeHash : String) (store : Store) : Option AnalysisResult :=
  match store.get (keyOf codeHash) with
  | .ok (some text) => AnalysisResult.ofText? text
  | .ok none => none
  | .error _ => none

/-- Looks for a kept result, and counts. -/
def find (codeHash : String) (s : Service) : Option AnalysisResult × Service :=
  match readable codeHash s.store with
  | some r => (some r, { s with counters := s.counters.hit })
  | none => (none, { s with counters := s.counters.miss })

/-- How long a result is kept: as given, or as the settings say if nothing or zero is given. -/
def lifetime (settings : Settings) : Option Int → Int
  | some ttl => if ttl = 0 then settings.cacheTtl else ttl
  | none => settings.cacheTtl

/-- Keeps a result; the answer tells whether the store took it. -/
def keep (settings : Settings) (codeHash : String) (r : AnalysisResult) (ttl : Option Int)
    (s : Service) : Bool × Service :=
  match s.store.set (keyOf codeHash) r.toText (lifetime settings ttl) with
  | .ok store => (true, { s with store := store })
  | .error _ => (false, s)

/-- The first half of a call. -/
def start (settings : Settings) (q : Inquiry) (s : Service) : Pending × Service :=
  let (id, tickets) := s.tickets.draw "an" 12
  let hash := CodeKey.of settings q.code q.filename
  let (kept, s) := { s with tickets := tickets }.find hash
  (⟨q, id, hash, kept⟩, s)

/-- A kept result as the answer to a call. -/
def reuse (p : Pending) (r : AnalysisResult) : AnalysisResult :=
  { r with analysisId := p.analysisId, fromCache := true, requestId := p.inquiry.requestId }

/-- Counts a fresh result. -/
def count (r : AnalysisResult) (c : Counters) : Counters :=
  let c := c.analysis
  if r.fault.isSome then c.parseError else c.findings (r.suggestions.map (·.rule))

/-- The second half of a call. -/
def finish (settings : Settings) (p : Pending) (s : Service) : AnalysisResult × Service :=
  match p.kept with
  | some r => (reuse p r, s)
  | none =>
    let (r, tickets) := AnalysisResult.compute settings p.analysisId p.inquiry s.tickets
    let s := { s with tickets := tickets, counters := count r s.counters }
    if r.fault.isSome then (r, s) else (r, (s.keep settings p.codeHash r none).2)

/-- A call that runs alone. -/
def analyze (settings : Settings) (q : Inquiry) (s : Service) : AnalysisResult × Service :=
  let (p, s) := s.start settings q
  s.finish settings p

/-- Whether the store answers, in words. -/
def storeStatus (s : Service) : String :=
  match s.store.ping with
  | .ok _ => "ok"
  | .error e => "error: " ++ e.message

end Service

end AwaitLint
