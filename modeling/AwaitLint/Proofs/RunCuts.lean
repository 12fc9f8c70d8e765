import AwaitLint.Proofs.MaximalRuns

/-! # All cuts of steps into independent runs

A maximal run is never a proper beginning of an independent one. So there is one cut into maximal runs,
and a cut into any independent runs is never ahead of it: after equally many runs it has come no further.
-/

namespace AwaitLint

section
variable {α : Type} (bound refs : α → List String)

/-- `segments` cuts `xs` into independent runs, which need not be maximal. -/
structure IsIndependentCut (xs : List α) (segments : List (List α)) : Prop where
  flatten : segments.flatten = xs
  ne_nil : ∀ segment ∈ segments, segment ≠ []
  independent : ∀ segment ∈ segments, segment.Pairwise fun a b => ¬ Needs bound refs b a

instance (a b : α) : Decidable (Needs bound refs b a) :=
  inferInstanceAs (Decidable (∃ n ∈ refs b, n ∈ bound a))

variable {bound refs} {xs run segment : List α} {runs segments : List (List α)}

theorem IsRunSplit.isIndependentCut (h : IsRunSplit bound refs xs runs) :
    IsIndependentCut bound refs xs runs := ⟨h.flatten, h.ne_nil, h.independent⟩

theorem IsIndependentCut.tail (h : IsIndependentCut bound refs xs (segment :: segments)) :
    IsIndependentCut bound refs segments.flatten segments where
  flatten := rfl
  ne_nil := fun s hs => h.ne_nil s (List.mem_cons_of_mem _ hs)
  independent := fun s hs => h.independent s (List.mem_cons_of_mem _ hs)

theorem IsRunSplit.tail (h : IsRunSplit bound refs xs (run :: runs)) :
    IsRunSplit bound refs runs.flatten runs where
  flatten := rfl
  ne_nil := h.isIndependentCut.tail.ne_nil
  independent := h.isIndependentCut.tail.independent
  maximal := (List.isChain_cons.1 h.maximal).2

/-- The step after a maximal run reads a name that the run binds. -/
theorem IsRunSplit.exists_needs (h : IsRunSplit bound refs xs (run :: runs)) {b : α} {later : List α}
    (hb : runs.flatten = b :: later) : ∃ a ∈ run, Needs bound refs b a := by
  cases runs with
  | nil => simp at hb
  | cons next rest =>
    obtain ⟨c, hc, a, ha, hneeds⟩ := (List.isChain_cons.1 h.maximal).1 next rfl
    have hnext : next ∈ (next :: rest).head? := rfl
    obtain ⟨d, hd, hfirst⟩ := h.tail.head?_head? hnext
    have hcd : c = d := Option.mem_unique hc hd
    have hdb : b = d := by simpa [hb] using hfirst
    exact ⟨a, ha, hdb ▸ hcd ▸ hneeds⟩

/-- An independent segment that begins before a maximal run, or with it, ends in it. -/
theorem IsRunSplit.exists_rest (h : IsRunSplit bound refs xs (run :: runs)) (gap : List α)
    (hsegment : segment.Pairwise fun a b => ¬ Needs bound refs b a) {later : List α}
    (heq : gap ++ xs = segment ++ later) : ∃ gap', gap ++ run = segment ++ gap' ∧
      gap' ++ runs.flatten = later := by
  rw [← h.flatten, List.flatten_cons, ← List.append_assoc] at heq
  rcases List.append_eq_append_iff.1 heq with ⟨extra, rfl, hextra⟩ | ⟨gap', hgap', rfl⟩
  · cases extra with
    | nil => exact ⟨[], by simp, by simpa using hextra⟩
    | cons b extra =>
      -- the segment reaches the step that ends the run, and that step needs the run
      obtain ⟨a, ha, hneeds⟩ := h.exists_needs hextra
      have apart := (List.pairwise_append.1 hsegment).2.2 a (List.mem_append_right _ ha) b
        List.mem_cons_self
      exact absurd hneeds apart
  · exact ⟨gap', hgap', rfl⟩

/-- Runs that cover nothing are no runs, since none of them is empty. -/
theorem IsRunSplit.eq_nil_of_flatten (h : IsRunSplit bound refs xs runs) {part : List (List α)}
    (hsub : part ⊆ runs) (hnil : part.flatten = []) : part = [] := by
  refine List.eq_nil_iff_forall_not_mem.2 fun run hrun => ?_
  exact h.ne_nil run (hsub hrun) (List.flatten_eq_nil_iff.1 hnil run hrun)

/-- There is one cut into maximal runs. -/
theorem IsRunSplit.unique (h : IsRunSplit bound refs xs runs) {runs' : List (List α)}
    (h' : IsRunSplit bound refs xs runs') : runs = runs' := by
  induction runs generalizing xs runs' with
  | nil =>
    have hnil : runs'.flatten = [] := h'.flatten.trans h.flatten.symm
    exact (h'.eq_nil_of_flatten (List.Subset.refl _) hnil).symm
  | cons run runs ih =>
    cases runs' with
    | nil =>
      have hnil : (run :: runs).flatten = [] := h.flatten.trans h'.flatten.symm
      exact h.eq_nil_of_flatten (List.Subset.refl _) hnil
    | cons run' runs' =>
      -- each of the two first runs ends in the other one
      obtain ⟨c, hc, hrest⟩ := h.exists_rest [] (h'.independent run' List.mem_cons_self)
        h'.flatten.symm
      obtain ⟨d, hd, -⟩ := h'.exists_rest [] (h.independent run List.mem_cons_self)
        h.flatten.symm
      simp only [List.nil_append] at hc hd
      have hlength : c.length = 0 := by
        have hc' := congrArg List.length hc
        have hd' := congrArg List.length hd
        simp only [List.length_append] at hc' hd'
        omega
      obtain rfl : c = [] := List.length_eq_zero_iff.1 hlength
      have hrun : run = run' := by simpa using hc
      have hlater : runs.flatten = runs'.flatten := hrest
      rw [hrun, ih h.tail (hlater ▸ h'.tail)]

/-- The runs that the steps are cut into are characterised by being maximal and independent. -/
theorem isRunSplit_iff_eq_independentRuns :
    IsRunSplit bound refs xs runs ↔ runs = independentRuns bound refs xs := by
  constructor
  · intro h
    exact h.unique (independentRuns_isRunSplit xs)
  · rintro rfl
    exact independentRuns_isRunSplit xs

/-! ## No cut is ahead -/

/-- A cut that starts `gap` steps earlier stays behind: what the first runs leave over of `gap` and of
the maximal runs only moves on. -/
theorem IsRunSplit.stays_ahead (h : IsRunSplit bound refs xs runs) (gap : List α)
    (hcut : IsIndependentCut bound refs (gap ++ xs) segments) (k : Nat) :
    (segments.take k).flatten.length ≤ gap.length + (runs.take k).flatten.length := by
  induction runs generalizing xs gap segments k with
  | nil =>
    have hxs : xs = [] := h.flatten.symm
    have htotal := congrArg List.length hcut.flatten
    have hpart := congrArg (List.length ∘ List.flatten) (List.take_append_drop k segments)
    simp only [Function.comp, List.flatten_append, List.length_append] at hpart htotal
    simp only [hxs, List.length_nil] at htotal
    omega
  | cons run runs ih =>
    cases k with
    | zero => simp
    | succ k =>
      cases segments with
      | nil => simp
      | cons segment segments =>
        have hsegment := hcut.independent segment List.mem_cons_self
        obtain ⟨gap', hgap', hrest⟩ := h.exists_rest gap hsegment hcut.flatten.symm
        have hlater := ih h.tail gap' (hrest ▸ hcut.tail) k
        have hlength := congrArg List.length hgap'
        simp only [List.length_append] at hlength
        simp only [List.take_succ_cons, List.flatten_cons, List.length_append]
        omega

/-- Runs that cover everything are all the runs. -/
theorem IsRunSplit.length_le (h : IsRunSplit bound refs xs runs) {k : Nat}
    (hk : xs.length ≤ (runs.take k).flatten.length) : runs.length ≤ k := by
  have htotal := congrArg List.length h.flatten
  rw [← List.take_append_drop k runs, List.flatten_append, List.length_append] at htotal
  have hrest : (runs.drop k).flatten = [] := List.length_eq_zero_iff.1 (by omega)
  exact List.drop_eq_nil_iff.1 (h.eq_nil_of_flatten (List.drop_subset k runs) hrest)

/-- No cut into independent runs has fewer of them, and none has come further after the first `k`. -/
theorem independentRuns_optimal (h : IsIndependentCut bound refs xs segments) :
    (independentRuns bound refs xs).length ≤ segments.length ∧
      ∀ k, (segments.take k).flatten.length ≤ ((independentRuns bound refs xs).take k).flatten.length := by
  have hruns : IsRunSplit bound refs xs (independentRuns bound refs xs) := independentRuns_isRunSplit xs
  have ahead : ∀ k, (segments.take k).flatten.length ≤
      ((independentRuns bound refs xs).take k).flatten.length := by
    intro k
    have hk := hruns.stays_ahead [] h k
    simpa using hk
  refine ⟨hruns.length_le ?_, ahead⟩
  have hall := ahead segments.length
  rwa [List.take_length, h.flatten] at hall

end

/-- Steps as the names that they bind and read. The third needs the first, the fourth nothing. -/
def fourSteps : List (List String × List String) :=
  [(["a"], ["f"]), (["b"], ["g"]), (["c"], ["a"]), (["d"], ["h"])]

/-- Two runs are enough for the steps; this cut has a third one. -/
theorem independentRuns_optimal_fourSteps :
    let segments := [fourSteps.take 1, (fourSteps.drop 1).take 2, fourSteps.drop 3]
    IsIndependentCut Prod.fst Prod.snd fourSteps segments ∧
      (independentRuns Prod.fst Prod.snd fourSteps).length = 2 ∧
      (independentRuns Prod.fst Prod.snd fourSteps).length ≤ segments.length ∧
      ∀ k, (segments.take k).flatten.length ≤
        ((independentRuns Prod.fst Prod.snd fourSteps).take k).flatten.length := by
  intro segments
  have hcut : IsIndependentCut Prod.fst Prod.snd fourSteps segments :=
    ⟨by decide, by decide, by decide⟩
  exact ⟨hcut, by decide, independentRuns_optimal hcut⟩

end AwaitLint
