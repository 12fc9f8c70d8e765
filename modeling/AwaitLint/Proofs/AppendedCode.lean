import AwaitLint.Proofs.RunCuts
import AwaitLint.Proofs.WholeStatements

/-! # Code that is added at the end of a function

More statements at the end of a body add steps after those that were there. The runs of the old steps stay,
except that the last one may become longer, so each of them has the second statement that it had, and the
findings about runs are only added to. The third await of the function stays too; it is reported until a
statement that is added calls a combinator.
-/

namespace AwaitLint

/-! ## Runs of a longer list -/

section
variable {α : Type} {bound refs : α → List String} {xs ys last : List α} {runs later : List (List α)}

/-- A cut of the last run and of what follows it continues the cut before it. -/
theorem IsRunSplit.append (h : IsRunSplit bound refs xs (runs ++ [last]))
    (h' : IsRunSplit bound refs (last ++ ys) later) :
    IsRunSplit bound refs (xs ++ ys) (runs ++ later) where
  flatten := by
    rw [← h.flatten, List.flatten_append, List.flatten_append, h'.flatten]
    simp
  ne_nil := by
    intro run hrun
    rcases List.mem_append.1 hrun with hrun | hrun
    · exact h.ne_nil run (List.mem_append_left _ hrun)
    · exact h'.ne_nil run hrun
  independent := by
    intro run hrun
    rcases List.mem_append.1 hrun with hrun | hrun
    · exact h.independent run (List.mem_append_left _ hrun)
    · exact h'.independent run hrun
  maximal := by
    obtain ⟨hruns, -, hlast⟩ := List.isChain_append.1 h.maximal
    refine List.isChain_append.2 ⟨hruns, h'.maximal, fun run hrun next hnext => ?_⟩
    obtain ⟨b, hb, a, ha, hneeds⟩ := hlast run hrun last rfl
    -- the run after `run` still starts with the first step of `last`
    obtain ⟨c, hc, hfirst⟩ := h'.head?_head? hnext
    rw [List.head?_append, Option.mem_def.1 hb] at hfirst
    obtain rfl : b = c := by simpa using hfirst
    exact ⟨b, hc, a, ha, hneeds⟩

/-- With more steps the last run may go on, and the runs before it stay. -/
theorem independentRuns_append (hruns : independentRuns bound refs xs = runs ++ [last]) (ys : List α) :
    ∃ more later, independentRuns bound refs (xs ++ ys) = runs ++ (last ++ more) :: later := by
  have h : IsRunSplit bound refs xs (runs ++ [last]) := hruns ▸ independentRuns_isRunSplit xs
  have hlast : last ∈ runs ++ [last] := List.mem_append_right _ List.mem_cons_self
  have h' : IsRunSplit bound refs (last ++ ys) (independentRuns bound refs (last ++ ys)) :=
    independentRuns_isRunSplit _
  have whole := (h.append h').unique (independentRuns_isRunSplit (xs ++ ys))
  cases hcut : independentRuns bound refs (last ++ ys) with
  | nil =>
    have hnil := h'.flatten
    rw [hcut] at hnil
    exact absurd (List.append_eq_nil_iff.1 hnil.symm).1 (h.ne_nil last hlast)
  | cons first later =>
    rw [hcut] at h' whole
    obtain ⟨more, hfirst, -⟩ := h'.exists_rest [] (h.independent last hlast) rfl
    exact ⟨more, later, by rw [← whole, ← hfirst, List.nil_append]⟩

end

/-! ## Findings of a longer scope -/

namespace Scope

theorem second?_append {run : List Operation} {d : Diagnostic} (h : second? run = some d)
    (more : List Operation) : second? (run ++ more) = some d := by
  unfold second? at h ⊢
  cases hrun : run[1]? with
  | none => simp [hrun] at h
  | some o =>
    have hlt : 1 < run.length := (List.getElem?_eq_some_iff.1 hrun).1
    rw [List.getElem?_append_left hlt]
    exact h

theorem runsReport_isPrefix {s s' : Scope} {more : List Operation}
    (h : s'.topLevel = s.topLevel ++ more) : runsReport s true <+: runsReport s' true := by
  rw [runsReport_eq, runsReport_eq, if_pos rfl, if_pos rfl, runs, runs, h]
  rcases List.eq_nil_or_concat (independentRuns Operation.bound Operation.refs s.topLevel) with
    hruns | ⟨runs, last, hruns⟩
  · rw [hruns]
    exact List.nil_prefix
  · rw [List.concat_eq_append] at hruns
    obtain ⟨extra, later, happended⟩ := independentRuns_append hruns more
    rw [hruns, happended, List.filterMap_append, List.filterMap_append]
    refine (List.prefix_append_right_inj _).2 ?_
    cases hlast : second? last with
    | none => simp [hlast]
    | some d => simp [hlast, second?_append hlast extra]

theorem third?_of_isPrefix {s s' : Scope}
    (h : s.operations.map Operation.await <+: s'.operations.map Operation.await)
    {a : Nat × Span × Node} (ha : s.third? = some a) : s'.third? = some a := by
  obtain ⟨more, hmore⟩ := h
  have hlt := (List.getElem?_eq_some_iff.1 ha).1
  rw [third?, ← hmore, List.getElem?_append_left hlt]
  exact ha

/-- A waterfall stays where it is, unless the longer scope is parallel. -/
theorem waterfallReport_of_isPrefix {s s' : Scope}
    (h : s.operations.map Operation.await <+: s'.operations.map Operation.await) {d : Diagnostic}
    {outermost : Bool} (hd : waterfallReport s outermost = [d]) :
    s.parallel = false ∧ s'.third? = s.third? ∧
      waterfallReport s' outermost = if s'.parallel then [] else [d] := by
  rw [waterfallReport_eq] at hd
  split at hd
  · cases hd
  · next hs =>
    cases ha : s.third? with
    | none => simp [ha] at hd
    | some a =>
      have ha' := third?_of_isPrefix h ha
      rw [waterfallReport_eq, ha', ← hd, ha]
      exact ⟨by simpa using hs, rfl, rfl⟩

end Scope

/-! ## Bodies that go on -/

/-- A call of a combinator stands in the scope of the statements: inside of them, but not in the body of
another function. -/
def CallsCombinator (combinators : List String) (statements : List Node) : Prop :=
  ∃ n ∈ statements.flatMap Node.own, isCombinatorCall combinators n = true

theorem callsCombinator_append {cs : List String} {body more : List Node} :
    CallsCombinator cs (body ++ more) ↔ CallsCombinator cs body ∨ CallsCombinator cs more := by
  simp only [CallsCombinator, List.flatMap_append, List.mem_append, or_and_right, exists_or]

namespace Scope
variable (cs : List String) (label : Nat) (name : String)

/-- The scope of a function as it is left. -/
def closed (body : List Node) : Scope := (opened label name body).absorb cs (body.flatMap Node.own)

theorem parallel_closed (body : List Node) :
    (closed cs label name body).parallel = true ↔ CallsCombinator cs body := by
  simp only [closed, absorb, opened, Bool.false_or, List.any_eq_true, CallsCombinator]

theorem awaits_closed_isPrefix (body more : List Node) :
    (closed cs label name body).operations.map Operation.await <+:
      (closed cs label name (body ++ more)).operations.map Operation.await := by
  simp only [closed, map_await_absorb_opened, List.flatMap_append, List.filterMap_append]
  exact List.prefix_append _ _

theorem topLevel_closed_append {body more : List Node}
    (h : ((((body ++ more).flatMap Node.own).filterMap Node.await?).map Prod.fst).Nodup) :
    (closed cs label name (body ++ more)).topLevel =
      (closed cs label name body).topLevel ++ more.filterMap Node.step? := by
  have hbody : (((body.flatMap Node.own).filterMap Node.await?).map Prod.fst).Nodup := by
    rw [List.flatMap_append, List.filterMap_append, List.map_append] at h
    exact h.of_append_left
  rw [closed, closed, topLevel_absorb_opened cs label name h, topLevel_absorb_opened cs label name hbody,
    List.filterMap_append]

/-- A waterfall of a body is reported on the same await when statements are added that call no combinator. -/
theorem waterfallReport_closed_append {body : List Node} {outermost : Bool} {d : Diagnostic}
    (hd : waterfallReport (closed cs label name body) outermost = [d]) (more : List Node) :
    (closed cs label name (body ++ more)).third? = (closed cs label name body).third? ∧
      (¬ CallsCombinator cs more →
        waterfallReport (closed cs label name (body ++ more)) outermost = [d]) ∧
      (CallsCombinator cs more →
        waterfallReport (closed cs label name (body ++ more)) outermost = []) := by
  obtain ⟨hserial, hthird, hreport⟩ :=
    waterfallReport_of_isPrefix (awaits_closed_isPrefix cs label name body more) hd
  have hbody : ¬ CallsCombinator cs body := by
    rw [← parallel_closed cs label name, hserial]
    exact Bool.false_ne_true
  have hparallel := parallel_closed cs label name (body ++ more)
  rw [callsCombinator_append, or_iff_right hbody] at hparallel
  rw [hreport]
  exact ⟨hthird, fun hmore => if_neg (mt hparallel.1 hmore), fun hmore => if_pos (hparallel.2 hmore)⟩

end Scope

namespace Tracker

/-- The scope that is left last on a visit of a function is the function's own. -/
theorem visit_leaves_function {w : Watch} (hw : w.Passive) {t : Tracker} (ht : t.stack = [])
    (label : Nat) (span : Span) (name : String) (decorators : List Node) (parameters returns : Node)
    (body : List Node) :
    (visit w (.asyncDef label span name decorators parameters returns body) t).exits.getLast? =
      some (.closed w.combinators label name body, true) := by
  let p : Place := ⟨.asyncDef label span name decorators parameters returns body, []⟩
  have howners : t.owners = [] := by simp [owners, ht]
  have horder : p.exitOrder = p.parts.flatMap Place.exitOrder ++ [p] := by
    rw [Place.exitOrder_eq]
    rfl
  have hexit : p.exit? w.combinators = some (.closed w.combinators label name body, true) := rfl
  have hexits : (visit w p.node t).exits =
      t.exits ++ p.exitOrder.filterMap (Place.exit? w.combinators) := by
    rw [visit_eq_after hw, howners]
    rfl
  rw [hexits, horder, List.filterMap_append]
  simp [hexit]

/-- Statements that are added at the end of an outermost function add to the findings about its runs and
change none of those before. A waterfall is reported on the same await as before, exactly if no statement
that is added calls a combinator in the function's own scope; otherwise none is reported. -/
theorem visit_append_keeps_findings (reports : List Report) (cs : List String) (t : Tracker)
    (ht : t.stack = []) (label : Nat) (span span' : Span) (name : String) (decorators : List Node)
    (parameters returns : Node) (body more : List Node)
    (h : (Node.asyncDef label span' name decorators parameters returns
      (body ++ more)).root.AwaitsApart) :
    ∃ s s',
      (visit (.reporting reports cs) (.asyncDef label span name decorators parameters returns body)
        t).exits.getLast? = some (s, true) ∧
      (visit (.reporting reports cs)
        (.asyncDef label span' name decorators parameters returns (body ++ more)) t).exits.getLast? =
          some (s', true) ∧
      s.label = label ∧ s'.label = label ∧
      runsReport s true <+: runsReport s' true ∧
      ∀ d, waterfallReport s true = [d] →
        (waterfallReport s' true = [d] ∧ s'.third? = s.third? ↔ ¬ CallsCombinator cs more) ∧
        (CallsCombinator cs more → waterfallReport s' true = []) := by
  have hw := Watch.passive_reporting reports cs
  refine ⟨.closed cs label name body, .closed cs label name (body ++ more),
    visit_leaves_function hw ht .., visit_leaves_function hw ht .., rfl, rfl, ?_, ?_⟩
  · have apart := h.innerParts (Place.mem_below.2 (.inl rfl))
    exact Scope.runsReport_isPrefix (Scope.topLevel_closed_append cs label name apart)
  · intro d hd
    obtain ⟨third, kept, silenced⟩ := Scope.waterfallReport_closed_append cs label name hd more
    refine ⟨⟨?_, fun hmore => ⟨kept hmore, third⟩⟩, silenced⟩
    rintro ⟨hreport, -⟩ hmore
    rw [silenced hmore] at hreport
    cases hreport

/-- `a = await f()`, `b = await g()`, `await h(a)` -/
def threeSteps : List Node :=
  let line (n : Int) : Span := ⟨n, 4, none, none⟩
  let await (l : Nat) (n : Int) (f : String) (args : List Node) : Node :=
    .await l (line n) (.call (.name f) args [])
  [.assign (line 2) [.name "a"] (await 1 2 "f" []), .assign (line 3) [.name "b"] (await 2 3 "g" []),
    .exprStmt (line 4) (await 3 4 "h" [.name "a"])]

/-- An async function with a call of a combinator in its body, and one more await after it. -/
def twoMore : List Node :=
  let line (n : Int) : Span := ⟨n, 4, none, none⟩
  [.asyncDef 4 (line 5) "inner" [] .absent .absent
      [.exprStmt (line 6) (.await 5 (line 6) (.call (.attr (.name "asyncio") "gather") [] []))],
    .exprStmt (line 7) (.await 6 (line 7) (.call (.name "k") [] []))]

theorem visit_append_keeps_findings_twoMore :
    let before : Node := .asyncDef 0 default "f" [] .absent .absent threeSteps
    let after : Node := .asyncDef 0 default "f" [] .absent .absent (threeSteps ++ twoMore)
    let w : Watch := .reporting [waterfallReport, runsReport] defaultCombinators
    after.root.AwaitsApart ∧ ∃ s s' d,
      (visit w before {}).exits.getLast? = some (s, true) ∧
      (visit w after {}).exits.getLast? = some (s', true) ∧
      s.label = 0 ∧ s'.label = 0 ∧
      runsReport s true <+: runsReport s' true ∧
      waterfallReport s true = [d] ∧
      (waterfallReport s' true = [d] ∧ s'.third? = s.third? ↔
        ¬ CallsCombinator defaultCombinators twoMore) ∧
      (CallsCombinator defaultCombinators twoMore → waterfallReport s' true = []) := by
  intro before after w
  have apart : after.root.AwaitsApart := by
    unfold Place.AwaitsApart
    decide +kernel
  obtain ⟨s, s', hs, hs', hl, hl', hruns, hwaterfall⟩ := visit_append_keeps_findings
    [waterfallReport, runsReport] defaultCombinators {} rfl 0 default default "f" [] .absent .absent
    threeSteps twoMore apart
  let d : Diagnostic := ⟨.waterfallChain, 4, 4, 4, 4⟩
  have reported : (visit w before {}).exits.getLast?.map (fun e => waterfallReport e.1 e.2) =
      some [d] := by decide +kernel
  have hd : waterfallReport s true = [d] := by
    rw [hs] at reported
    exact Option.some.inj reported
  exact ⟨apart, s, s', d, hs, hs', hl, hl', hruns, hd, hwaterfall d hd⟩

end Tracker

end AwaitLint
