import AwaitLint.Proofs.Places

/-! # Labels given in the order of a walk

Numbering a tree from `k` on gives its awaits and async functions the labels `k`, `k + 1`, … in the order
of a walk, so no label occurs twice.
-/

namespace AwaitLint.Node

theorem numberAll_append (xs ys : List Node) (k : Nat) : numberAll (xs ++ ys) k =
    ((numberAll xs k).1 ++ (numberAll ys (numberAll xs k).2).1, (numberAll ys (numberAll xs k).2).2) := by
  induction xs generalizing k with
  | nil => rfl
  | cons x xs ih => simp [numberAll, ih]

/-- The first number that is left for the parts of a node. -/
def numberBelow (n : Node) (k : Nat) : Nat := if n.label?.isSome then k + 1 else k

theorem label?_number (n : Node) (k : Nat) :
    (n.number k).1.label? = if n.label?.isSome then some k else none := by
  cases n <;> simp [number, label?]

theorem outerParts_number (n : Node) (k : Nat) :
    (n.number k).1.outerParts = (numberAll n.outerParts (n.numberBelow k)).1 := by
  cases n <;> simp [number, numberAll, numberAll_append, outerParts, children, numberBelow, label?]

theorem innerParts_number (n : Node) (k : Nat) : (n.number k).1.innerParts =
    (numberAll n.innerParts (numberAll n.outerParts (n.numberBelow k)).2).1 := by
  cases n <;> simp [number, numberAll, numberAll_append, outerParts, innerParts, numberBelow, label?]

theorem number_snd (n : Node) (k : Nat) : (n.number k).2 =
    (numberAll n.innerParts (numberAll n.outerParts (n.numberBelow k)).2).2 := by
  cases n <;> simp [number, numberAll, numberAll_append, outerParts, innerParts, children, numberBelow,
    label?]

/-- The labels of a tree that is numbered from `k` on are `k`, `k + 1`, … up to the next free number. -/
def NumbersInOrder (n : Node) : Prop := ∀ k owners,
  k ≤ (n.number k).2 ∧ Place.labels ⟨(n.number k).1, owners⟩ = List.range' k ((n.number k).2 - k)

private theorem range'_append_of_le {k m r : Nat} (h : k ≤ m) (h' : m ≤ r) :
    List.range' k (m - k) ++ List.range' m (r - m) = List.range' k (r - k) := by
  obtain ⟨a, rfl⟩ := Nat.exists_eq_add_of_le h
  obtain ⟨b, rfl⟩ := Nat.exists_eq_add_of_le h'
  rw [Nat.add_assoc, Nat.add_sub_cancel_left, Nat.add_sub_cancel_left, ← Nat.add_assoc,
    Nat.add_sub_cancel_left, List.range'_append_1]

private theorem numberAll_inOrder {xs : List Node} (h : ∀ x ∈ xs, x.NumbersInOrder) (k : Nat)
    (owners : List Nat) : k ≤ (numberAll xs k).2 ∧
      ((numberAll xs k).1.flatMap fun m => Place.labels ⟨m, owners⟩) =
        List.range' k ((numberAll xs k).2 - k) := by
  induction xs generalizing k with
  | nil => simp [numberAll]
  | cons x xs ih =>
    obtain ⟨hle, hx⟩ := h x List.mem_cons_self k owners
    obtain ⟨hle', hxs⟩ := ih (fun y hy => h y (List.mem_cons_of_mem _ hy)) (x.number k).2
    refine ⟨Nat.le_trans hle hle', ?_⟩
    simp only [numberAll, List.flatMap_cons, hx, hxs]
    exact range'_append_of_le hle hle'

theorem numbersInOrder (n : Node) : n.NumbersInOrder := by
  induction n using inductionOnParts with
  | step n outer inner =>
    intro k owners
    have hb : k ≤ n.numberBelow k := by
      unfold numberBelow
      split <;> omega
    obtain ⟨hle, ho⟩ := numberAll_inOrder outer (n.numberBelow k) owners
    obtain ⟨hle', hi⟩ := numberAll_inOrder inner (numberAll n.outerParts (n.numberBelow k)).2
      ((n.number k).1.functionLabel?.toList ++ owners)
    rw [Place.labels_eq, Place.flatMap_parts, outerParts_number, innerParts_number, number_snd,
      label?_number, ho, hi, range'_append_of_le hle hle']
    refine ⟨by omega, ?_⟩
    rw [← range'_append_of_le hb (Nat.le_trans hle hle')]
    unfold numberBelow
    split <;> simp

theorem labelled_distinct (n : Node) : Place.Distinct ⟨n.labelled, []⟩ := by
  have h := (n.numbersInOrder 0 []).2
  refine ⟨?_, fun _ _ h => List.not_mem_nil h⟩
  rw [labelled, h]
  exact List.nodup_range'

end AwaitLint.Node
