import AwaitLint.Runs
import Mathlib.Data.List.Chain

/-! # Cutting steps into maximal independent runs

A run is independent if no step of it reads a name that an earlier step of it binds, and maximal if the
step that follows it reads a name that it binds.
-/

namespace AwaitLint

section
variable {α : Type} (bound refs : α → List String)

/-- The step `b` reads a name that the step `a` binds. -/
def Needs (b a : α) : Prop := ∃ n ∈ refs b, n ∈ bound a

/-- `runs` is a cut of `xs` into maximal independent runs. -/
structure IsRunSplit (xs : List α) (runs : List (List α)) : Prop where
  flatten : runs.flatten = xs
  ne_nil : ∀ run ∈ runs, run ≠ []
  independent : ∀ run ∈ runs, run.Pairwise fun a b => ¬ Needs bound refs b a
  maximal : runs.IsChain fun run next => ∃ b ∈ next.head?, ∃ a ∈ run, Needs bound refs b a

variable {bound refs}

theorem dependsOn_iff {rs bs : List String} : dependsOn rs bs = true ↔ ∃ n ∈ rs, n ∈ bs := by
  simp [dependsOn]

theorem not_mem_of_mem_takeRun {names : List String} {xs : List α} {b : α}
    (h : b ∈ (takeRun bound refs names xs).1) : ∀ n ∈ refs b, n ∉ names := by
  induction xs generalizing names with
  | nil => simp [takeRun] at h
  | cons x xs ih =>
    rw [takeRun] at h
    split at h
    · simp at h
    · next hx =>
      rcases List.mem_cons.1 h with rfl | h
      · intro n hn hnames
        exact hx (dependsOn_iff.2 ⟨n, hn, hnames⟩)
      · intro n hn hnames
        exact ih h n hn (List.mem_append_left _ hnames)

theorem takeRun_pairwise (names : List String) (xs : List α) :
    (takeRun bound refs names xs).1.Pairwise fun a b => ¬ Needs bound refs b a := by
  induction xs generalizing names with
  | nil => exact .nil
  | cons x xs ih =>
    rw [takeRun]
    split
    · exact .nil
    · refine List.pairwise_cons.2 ⟨?_, ih (names ++ bound x)⟩
      rintro b hb ⟨n, hn, hx⟩
      exact not_mem_of_mem_takeRun hb n hn (List.mem_append_right _ hx)

/-- What is left over starts with a step that reads a name bound before. -/
theorem takeRun_rest {names : List String} {xs : List α} {b : α}
    (h : b ∈ (takeRun bound refs names xs).2.head?) :
    ∃ n ∈ refs b, n ∈ names ∨ ∃ a ∈ (takeRun bound refs names xs).1, n ∈ bound a := by
  induction xs generalizing names with
  | nil => simp [takeRun] at h
  | cons x xs ih =>
    rw [takeRun] at h ⊢
    split at h
    · next hx =>
      obtain rfl : x = b := by simpa using h
      obtain ⟨n, hn, hnames⟩ := dependsOn_iff.1 hx
      exact ⟨n, hn, .inl hnames⟩
    · next hx =>
      obtain ⟨n, hn, hb⟩ := ih h
      refine ⟨n, hn, ?_⟩
      rw [if_neg hx]
      rcases hb with hb | ⟨a, ha, hb⟩
      · rcases List.mem_append.1 hb with hb | hb
        · exact .inl hb
        · exact .inr ⟨x, List.mem_cons_self, hb⟩
      · exact .inr ⟨a, List.mem_cons_of_mem _ ha, hb⟩

/-- The first run starts with the first step. -/
theorem IsRunSplit.head?_head? {xs : List α} {runs : List (List α)} (h : IsRunSplit bound refs xs runs)
    {run : List α} (hrun : run ∈ runs.head?) : ∃ b ∈ run.head?, b ∈ xs.head? := by
  obtain ⟨rest, rfl⟩ : ∃ rest, runs = run :: rest := by
    cases runs <;> simp_all
  cases run with
  | nil => exact absurd rfl (h.ne_nil [] List.mem_cons_self)
  | cons b bs => exact ⟨b, rfl, by simp [← h.flatten]⟩

theorem runsWithin_isRunSplit {fuel : Nat} {xs : List α} (h : xs.length ≤ fuel) :
    IsRunSplit bound refs xs (runsWithin bound refs fuel xs) := by
  induction fuel generalizing xs with
  | zero =>
    obtain rfl : xs = [] := by simpa using h
    exact ⟨rfl, by simp [runsWithin], by simp [runsWithin], .nil⟩
  | succ fuel ih =>
    cases xs with
    | nil => exact ⟨rfl, by simp [runsWithin], by simp [runsWithin], .nil⟩
    | cons x xs =>
      have short : (takeRun bound refs (bound x) xs).2.length ≤ fuel :=
        Nat.le_trans (length_takeRun_le bound refs (bound x) xs) (Nat.le_of_succ_le_succ h)
      have later := ih short
      refine ⟨?_, ?_, ?_, ?_⟩
      · rw [runsWithin, List.flatten_cons, later.flatten, List.cons_append, takeRun_append]
      · exact List.forall_mem_cons.2 ⟨List.cons_ne_nil _ _, later.ne_nil⟩
      · refine List.forall_mem_cons.2 ⟨List.pairwise_cons.2 ⟨?_, takeRun_pairwise _ _⟩,
          later.independent⟩
        rintro b hb ⟨n, hn, hx⟩
        exact not_mem_of_mem_takeRun hb n hn hx
      · rw [runsWithin]
        refine List.isChain_cons.2 ⟨?_, later.maximal⟩
        intro next hnext
        obtain ⟨b, hb, hfirst⟩ := later.head?_head? hnext
        obtain ⟨n, hn, hx | ⟨a, ha, hx⟩⟩ := takeRun_rest hfirst
        · exact ⟨b, hb, x, List.mem_cons_self, n, hn, hx⟩
        · exact ⟨b, hb, a, List.mem_cons_of_mem _ ha, n, hn, hx⟩

/-- The runs that the steps are cut into are the maximal independent ones. -/
theorem independentRuns_isRunSplit (xs : List α) :
    IsRunSplit bound refs xs (independentRuns bound refs xs) :=
  runsWithin_isRunSplit (Nat.le_refl _)

end

end AwaitLint
