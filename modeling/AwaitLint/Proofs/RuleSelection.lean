import AwaitLint.Proofs.Findings

/-! # Choosing rules is choosing findings

Each rule reports findings of one kind of its own, and no rule sees what another one reports. So a walk
with some of the rules finds what a walk with all of them finds, without the kinds of the rules left out.
Comments silence findings one by one and sorting is stable, so the same holds of a whole analysis.
-/

namespace AwaitLint

/-- Whether the rule that reports this kind of finding applies. -/
def Eligibility.enables (e : Eligibility) : Kind → Bool
  | .waterfallChain => e.waterfall
  | .preferParallelCombinator => e.runs

/-! ## Sorting and selecting -/

section
variable {α : Type} {le : α → α → Bool}
  (trans : ∀ a b c, le a b = true → le b c = true → le a c = true)
  (total : ∀ a b, (le a b || le b a) = true)

include trans total

/-- A stable sort puts a new first element behind those that must precede it and before the others. -/
private theorem exists_mergeSort_cons (a : α) (xs : List α) :
    ∃ before after, (a :: xs).mergeSort le = before ++ a :: after ∧
      xs.mergeSort le = before ++ after ∧ (∀ b ∈ before, (!le a b) = true) ∧
      ∀ b ∈ after, le a b = true := by
  obtain ⟨before, after, hcons, hxs, hbefore⟩ := List.mergeSort_cons trans total a xs
  have sorted := List.pairwise_mergeSort trans total (a :: xs)
  rw [hcons] at sorted
  exact ⟨before, after, hcons, hxs, hbefore,
    (List.pairwise_cons.1 (List.pairwise_append.1 sorted).2.1).1⟩

/-- There is only one place for the new element. -/
private theorem mergeSort_cons_of_eq_append {a : α} {xs before after : List α}
    (h : xs.mergeSort le = before ++ after) (hbefore : ∀ b ∈ before, (!le a b) = true)
    (hafter : ∀ b ∈ after, le a b = true) : (a :: xs).mergeSort le = before ++ a :: after := by
  obtain ⟨before', after', hcons, hxs, hbefore', hafter'⟩ := exists_mergeSort_cons trans total a xs
  -- nothing stands before `a` in one cut and after it in the other
  have disjoint : ∀ {b : α}, (!le a b) = true → le a b = true → False := by simp
  rw [hcons]
  rcases List.append_eq_append_iff.1 (h.symm.trans hxs) with ⟨c, rfl, rfl⟩ | ⟨c, rfl, rfl⟩
  · obtain rfl : c = [] := List.eq_nil_iff_forall_not_mem.2 fun b hb =>
      disjoint (hbefore' b (List.mem_append_right _ hb)) (hafter b (List.mem_append_left _ hb))
    simp
  · obtain rfl : c = [] := List.eq_nil_iff_forall_not_mem.2 fun b hb =>
      disjoint (hbefore b (List.mem_append_right _ hb)) (hafter' b (List.mem_append_left _ hb))
    simp

/-- Selecting before a stable sort is selecting after it. -/
theorem filter_mergeSort (p : α → Bool) (xs : List α) :
    (xs.mergeSort le).filter p = (xs.filter p).mergeSort le := by
  induction xs with
  | nil => simp
  | cons x xs ih =>
    obtain ⟨before, after, hcons, hxs, hbefore, hafter⟩ := exists_mergeSort_cons trans total x xs
    rw [hxs, List.filter_append] at ih
    rw [hcons, List.filter_append]
    cases hx : p x with
    | false =>
      rw [List.filter_cons_of_neg (by simp [hx]), List.filter_cons_of_neg (by simp [hx]), ih]
    | true =>
      rw [List.filter_cons_of_pos hx, List.filter_cons_of_pos hx]
      refine (mergeSort_cons_of_eq_append trans total ih.symm ?_ ?_).symm
      · exact fun b hb => hbefore b (List.mem_of_mem_filter hb)
      · exact fun b hb => hafter b (List.mem_of_mem_filter hb)

end

theorem Diagnostic.filter_sort (p : Diagnostic → Bool) (ds : List Diagnostic) :
    (sort ds).filter p = sort (ds.filter p) := filter_mergeSort le_trans le_total p ds

/-! ## What each rule reports -/

theorem kind_of_mem_waterfallReport {s : Scope} {outermost : Bool} {d : Diagnostic}
    (h : d ∈ waterfallReport s outermost) : d.kind = .waterfallChain := by
  unfold waterfallReport at h
  split at h
  · simp at h
  · split at h
    · rw [List.mem_singleton.1 h]
      rfl
    · simp at h

theorem kind_of_mem_runsReport {s : Scope} {outermost : Bool} {d : Diagnostic}
    (h : d ∈ runsReport s outermost) : d.kind = .preferParallelCombinator := by
  unfold runsReport at h
  split at h
  · obtain ⟨run, -, hrun⟩ := List.mem_filterMap.1 h
    obtain ⟨second, -, hrun⟩ := Option.bind_eq_some_iff.1 hrun
    obtain ⟨statement, -, hrun⟩ := Option.bind_eq_some_iff.1 hrun
    obtain rfl := Option.some.inj hrun
    rfl
  · simp at h

namespace Analysis

/-- What the chosen rules say about a scope is the part of what all rules say that they enable. -/
theorem reports_watch_eq_filter (settings : Settings) (r : Request) (e : Eligibility)
    (x : Scope × Bool) : (watch settings r e).reports x =
      ((watch settings r .everything).reports x).filter fun d => e.enables d.kind := by
  have waterfall : (waterfallReport x.1 x.2).filter (fun d => e.enables d.kind) =
      if e.waterfall then waterfallReport x.1 x.2 else [] := by
    rw [List.filter_congr fun d hd => by rw [kind_of_mem_waterfallReport hd, Eligibility.enables]]
    cases e.waterfall <;> simp
  have runs : (runsReport x.1 x.2).filter (fun d => e.enables d.kind) =
      if e.runs then runsReport x.1 x.2 else [] := by
    rw [List.filter_congr fun d hd => by rw [kind_of_mem_runsReport hd, Eligibility.enables]]
    cases e.runs <;> simp
  rw [reports_watch, reports_watch, List.filter_append, ← waterfall, ← runs]
  rfl

theorem walk_diagnostics_eq_filter (settings : Settings) (r : Request) (e : Eligibility)
    (tree : Node) : (walk (watch settings r e) tree).diagnostics =
      (walk (watch settings r .everything) tree).diagnostics.filter fun d => e.enables d.kind := by
  rw [walk_diagnostics (passive_watch settings r e),
    walk_diagnostics (passive_watch settings r .everything), List.filter_flatMap]
  exact List.flatMap_congr fun x _ => reports_watch_eq_filter settings r e x

theorem findings_eq_filter (settings : Settings) (r : Request) (e : Eligibility)
    (comments : Comment.Comments) (tree : Node) :
    findings (watch settings r e) comments tree =
      (findings (watch settings r .everything) comments tree).filter fun d => e.enables d.kind := by
  rw [findings, findings, Diagnostic.filter_sort, walk_diagnostics_eq_filter, Comment.unsuppressed,
    Comment.unsuppressed, List.filter_comm]

/-- A text that parses is analyzed under every choice of rules. All choices find the same functions, and
each has the findings of all rules together, in their order, as far as it enables their kinds. -/
theorem run_eq_filter_everything (settings : Settings) (r : Request) {tree : Node}
    (h : parse r = .ok tree) :
    ∃ all, run settings { r with eligibility := some .everything } = .ok all ∧
      ∀ e, run settings { r with eligibility := some e } =
        .ok ⟨all.diagnostics.filter fun d => e.enables d.kind, e, all.functions⟩ := by
  have outcome : ∀ e, run settings { r with eligibility := some e } =
      .ok ⟨findings (watch settings r e) (Comment.scan r.code.toList) tree, e, tree.summary⟩ := by
    intro e
    change (parse r).map _ = _
    rw [h]
    rfl
  refine ⟨_, outcome .everything, fun e => ?_⟩
  rw [outcome, findings_eq_filter]

/-- Three awaits, the first two of which could run together. -/
def bothKindsRequest : Request where
  code := "async def f():\n    a = await g()\n    b = await h()\n    return await k(a, b)\n"

theorem run_eq_filter_everything_bothKindsRequest :
    ∃ tree, parse bothKindsRequest = .ok tree ∧
    ∃ all, run .default { bothKindsRequest with eligibility := some .everything } = .ok all ∧
      ∀ e, run .default { bothKindsRequest with eligibility := some e } =
        .ok ⟨all.diagnostics.filter fun d => e.enables d.kind, e, all.functions⟩ := by
  have parses : (parse bothKindsRequest).isOk = true := by decide +kernel
  obtain ⟨tree, h⟩ := Grammar.exists_of_isOk parses
  exact ⟨tree, h, run_eq_filter_everything .default bothKindsRequest h⟩

end Analysis

end AwaitLint
