import AwaitLint.Analysis
import AwaitLint.Proofs.MaximalRuns
import AwaitLint.Proofs.TopLevelSteps

/-! # What an analysis reports

The findings of a text that parses are listed in reading order. They are the third await of each function
that has one and calls no combinator, and the second statement of each maximal independent run of an
outermost function, as far as the rules apply and no comment on the line silences them.
-/

namespace AwaitLint

/-- By line, then by column, then by the text of the kind. -/
def Diagnostic.InOrder (a b : Diagnostic) : Prop :=
  a.line < b.line ∨ a.line = b.line ∧
    (a.column < b.column ∨ a.column = b.column ∧ a.kind.text ≤ b.kind.text)

theorem Kind.rank_le_iff {a b : Kind} : a.rank ≤ b.rank ↔ a.text ≤ b.text := by
  cases a <;> cases b <;> decide

namespace Diagnostic

theorem le_iff {a b : Diagnostic} : a.le b = true ↔ a.InOrder b := by
  unfold le InOrder
  rw [← Kind.rank_le_iff]
  by_cases hl : a.line = b.line <;> by_cases hc : a.column = b.column <;> simp [hl, hc]

theorem le_trans (a b c : Diagnostic) (hab : a.le b = true) (hbc : b.le c = true) : a.le c = true := by
  simp only [le_iff, InOrder, ← Kind.rank_le_iff] at *
  omega

theorem le_total (a b : Diagnostic) : (a.le b || b.le a) = true := by
  simp only [Bool.or_eq_true, le_iff, InOrder, ← Kind.rank_le_iff]
  omega

theorem sort_inOrder (ds : List Diagnostic) : (sort ds).Pairwise InOrder :=
  (List.pairwise_mergeSort le_trans le_total ds).imp le_iff.1

end Diagnostic

namespace Comment

/-- The comment on the line of `d` silences every finding, or lists the kind of `d`. -/
def Silenced (comments : Comments) (d : Diagnostic) : Prop :=
  ∃ text ∈ comments.at? d.line, ∃ codes ∈ noqaCodes text, codes = [] ∨ d.kind.text ∈ codes

theorem isSuppressed_iff {comments : Comments} {d : Diagnostic} :
    isSuppressed comments d = true ↔ Silenced comments d := by
  unfold isSuppressed Silenced silences
  cases comments.at? d.line with
  | none => simp
  | some text => cases h : noqaCodes text <;> simp [h]

instance (comments : Comments) (d : Diagnostic) : Decidable (Silenced comments d) :=
  decidable_of_iff _ isSuppressed_iff

theorem unsuppressed_eq (comments : Comments) (ds : List Diagnostic) :
    unsuppressed comments ds = ds.filter fun d => ¬ Silenced comments d := by
  refine List.filter_congr fun d _ => ?_
  rw [Bool.eq_iff_iff]
  simp [← isSuppressed_iff]

end Comment

namespace Place

/-- The third await that a function owns, if it owns no call of a combinator. -/
def waterfall? (combinators : List String) (tree : Node) (p : Place) : Option Diagnostic :=
  p.node.functionLabel?.bind fun d =>
    if ∃ q ∈ tree.root.ownedBy d, isCombinatorCall combinators q.node = true then none
    else ((tree.root.ownedBy d).filterMap fun q => q.node.await?)[2]?.map fun a =>
      .ofSpan .waterfallChain a.2.1

/-- The second statement of each run that the steps of an outermost function are cut into. -/
def seconds (split : List Operation → List (List Operation)) (p : Place) : List Diagnostic :=
  if p.owners = [] then
    (split p.node.steps).filterMap fun run =>
      (run[1]?.bind Operation.statement).map (.ofSpan .preferParallelCombinator)
  else []

/-- The rule for waterfalls, asked about the scope of a function, reports its third own await. -/
theorem Exited.waterfallReport {cs : List String} {tree : Node} {p : Place} {e : Scope × Bool}
    (he : p.Exited cs tree e) : waterfallReport e.1 e.2 = (p.waterfall? cs tree).toList := by
  simp only [Scope.waterfallReport_eq, Scope.third?, he.awaits, waterfall?, he.label, Option.bind_some,
    ← he.parallel, waterfallThreshold]
  split <;> rfl

/-- The rule for runs, asked about the scope of a function, reports the second statement of each of its
runs. -/
theorem Exited.runsReport {cs : List String} {tree : Node} (hd : tree.root.Distinct) {p : Place}
    (hp : p ∈ tree.root.below) {e : Scope × Bool} (hx : p.exit? cs = some e) (he : p.Exited cs tree e) :
    runsReport e.1 e.2 = p.seconds (independentRuns Operation.bound Operation.refs) := by
  simp only [Scope.runsReport_eq, seconds, he.outermost, Scope.runs, hd.topLevel_eq_steps hp hx]
  rfl

end Place

namespace Analysis

theorem passive_watch (settings : Settings) (r : Request) (e : Eligibility) :
    (watch settings r e).Passive := by
  intro p hp
  simp only [watch, policies, List.mem_append, List.mem_ite_nil_right, List.mem_singleton] at hp
  rcases hp with ⟨-, rfl⟩ | ⟨-, rfl⟩ <;> exact Policy.passive_ofReport _

/-- The walk may be left out without a change, since without policies it finds nothing. -/
theorem walk_diagnostics {w : Watch} (hw : w.Passive) (tree : Node) :
    (walk w tree).diagnostics =
      (tree.root.exitOrder.filterMap (Place.exit? w.combinators)).flatMap w.reports := by
  unfold walk
  split
  · next h => simp [Watch.reports, List.isEmpty_iff.1 h]
  · rw [Tracker.run_eq hw]
    rfl

/-- The findings in a tree, function by function. -/
def found (combinators : List String) (split : List Operation → List (List Operation))
    (e : Eligibility) (tree : Node) : List Diagnostic :=
  (if e.waterfall then tree.root.functions.filterMap (Place.waterfall? combinators tree) else [])
    ++ if e.runs then tree.root.functions.flatMap (Place.seconds split) else []

theorem reports_watch (settings : Settings) (r : Request) (e : Eligibility) (x : Scope × Bool) :
    (watch settings r e).reports x =
      (if e.waterfall then waterfallReport x.1 x.2 else [])
        ++ if e.runs then runsReport x.1 x.2 else [] := by
  rw [Watch.reports, watch, policies, List.flatMap_append]
  congr 1
  · split <;> simp [Policy.waterfall]
  · split <;> simp [Policy.runs]

/-- The walk finds these, in another order. -/
theorem walk_diagnostics_perm {tree : Node} (hd : tree.root.Distinct) (settings : Settings)
    (r : Request) (e : Eligibility) :
    (walk (watch settings r e) tree).diagnostics.Perm
      (found (r.combinators.getD settings.combinators)
        (independentRuns Operation.bound Operation.refs) e tree) := by
  let w := watch settings r e
  let waterfalls (p : Place) := if e.waterfall then (p.waterfall? w.combinators tree).toList else []
  let runs (p : Place) :=
    if e.runs then p.seconds (independentRuns Operation.bound Operation.refs) else []
  have one : ∀ p ∈ tree.root.exitOrder,
      (p.exit? w.combinators).toList.flatMap w.reports = waterfalls p ++ runs p := by
    intro p hp
    obtain ⟨x, hx, he⟩ := Place.exited_of_mem_exitOrder hd w.combinators hp
    have hr := he.runsReport hd (Place.mem_exitOrder.1 hp).1 hx
    simp only [hx, Option.toList_some, List.flatMap_singleton, reports_watch, w, waterfalls, runs,
      he.waterfallReport, hr]
  rw [walk_diagnostics (passive_watch settings r e), List.filterMap_eq_flatMap_toList,
    List.flatMap_assoc, List.flatMap_congr one]
  refine ((Place.exitOrder_perm _).flatMap_right _).trans ?_
  refine (List.flatMap_append_perm _ waterfalls runs).symm.trans (.of_eq ?_)
  unfold found
  congr 1
  · cases h : e.waterfall <;> simp [waterfalls, h, List.filterMap_eq_flatMap_toList, w, watch]
  · cases h : e.runs <;> simp [runs, h]

theorem distinct_of_parseText {text : List Char} {tree : Node}
    (h : Grammar.parseText text = .ok tree) : tree.root.Distinct := by
  obtain ⟨body, rfl⟩ : ∃ body, tree = (Node.compound body).labelled := by
    unfold Grammar.parseText at h
    split at h
    · cases h
    · dsimp only at h
      split at h <;> cases h
      exact ⟨_, rfl⟩
  exact Node.labelled_distinct _

/-- A text that parses is analyzed, and the findings are in reading order. Up to their order they are the
third awaits and the second statements of runs that the rules ask for, without the silenced ones; the runs
are maximal and independent. -/
theorem run_reports_findings (settings : Settings) (r : Request) {tree : Node} (h : parse r = .ok tree) :
    tree.root.Distinct ∧ ∃ o split, run settings r = .ok o ∧
      o.eligibility = eligibility settings r (Comment.scan r.code.toList) ∧
      (∀ steps, IsRunSplit Operation.bound Operation.refs steps (split steps)) ∧
      o.diagnostics.Pairwise Diagnostic.InOrder ∧
      o.diagnostics.Perm
        ((found (r.combinators.getD settings.combinators) split o.eligibility tree).filter
          fun d => ¬ Comment.Silenced (Comment.scan r.code.toList) d) := by
  have hd := distinct_of_parseText (Grammar.parseFile_eq_ok.1 h).2
  refine ⟨hd, ofTree settings r tree, independentRuns Operation.bound Operation.refs, ?_, rfl,
    independentRuns_isRunSplit, Diagnostic.sort_inOrder _, ?_⟩
  · rw [run, h]
    rfl
  · have perm := walk_diagnostics_perm hd settings r
      (eligibility settings r (Comment.scan r.code.toList))
    refine (List.mergeSort_perm _ _).trans ?_
    rw [Comment.unsuppressed_eq]
    exact perm.filter _

/-- A function in another one; of their two waterfalls one is silenced. -/
def nestedRequest : Request where
  code := "async def f():\n    a = await g()\n    b = await h()\n    async def inner():\n"
    ++ "        await x()\n        await y()\n        await z()  # noqa: waterfall-chain\n"
    ++ "    return await k(a, b)\n"

theorem run_reports_findings_nestedRequest :
    ∃ tree, parse nestedRequest = .ok tree ∧
    tree.root.Distinct ∧ ∃ o split, run .default nestedRequest = .ok o ∧
      o.eligibility = eligibility .default nestedRequest (Comment.scan nestedRequest.code.toList) ∧
      (∀ steps, IsRunSplit Operation.bound Operation.refs steps (split steps)) ∧
      o.diagnostics.Pairwise Diagnostic.InOrder ∧
      o.diagnostics.Perm
        ((found Settings.default.combinators split o.eligibility tree).filter
          fun d => ¬ Comment.Silenced (Comment.scan nestedRequest.code.toList) d) := by
  have parses : (parse nestedRequest).isOk = true := by decide +kernel
  obtain ⟨tree, h⟩ := Grammar.exists_of_isOk parses
  exact ⟨tree, h, run_reports_findings .default nestedRequest h⟩

end Analysis

end AwaitLint
