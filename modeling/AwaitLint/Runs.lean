/-! # Maximal runs of independent steps -/

namespace AwaitLint

/-- Whether a step that reads `refs` needs a name in `bound`. -/
def dependsOn (refs bound : List String) : Bool := refs.any bound.contains

section
variable {α : Type _} (bound refs : α → List String)

/-- The steps that join the current run, whose names so far are `names`, and what is left. -/
def takeRun (names : List String) : List α → List α × List α
  | [] => ([], [])
  | x :: xs =>
    if dependsOn (refs x) names then ([], x :: xs)
    else
      let (run, rest) := takeRun (names ++ bound x) xs
      (x :: run, rest)

theorem takeRun_append (names : List String) (xs : List α) :
    (takeRun bound refs names xs).1 ++ (takeRun bound refs names xs).2 = xs := by
  induction xs generalizing names with
  | nil => rfl
  | cons x xs ih =>
    rw [takeRun]
    split
    · rfl
    · simpa using ih (names ++ bound x)

theorem length_takeRun_le (names : List String) (xs : List α) :
    (takeRun bound refs names xs).2.length ≤ xs.length := by
  have h := congrArg List.length (takeRun_append bound refs names xs)
  rw [List.length_append] at h
  omega

/-- Splits steps into runs: a step that reads a name bound earlier in the current run starts the
next one. The reads of a run's first step are never looked at. `fuel` bounds the number of runs. -/
def runsWithin : Nat → List α → List (List α)
  | 0, _ => []
  | _, [] => []
  | fuel + 1, x :: xs =>
    let (run, rest) := takeRun bound refs (bound x) xs
    (x :: run) :: runsWithin fuel rest

def independentRuns (xs : List α) : List (List α) := runsWithin bound refs xs.length xs

end

end AwaitLint
