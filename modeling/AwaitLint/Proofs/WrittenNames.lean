import AwaitLint.Proofs.OpenReads

/-! # What an assignment target writes

The leaves of a target are reached through lists, tuples and stars only. A target writes the names that it
binds, and the names that are read in the object behind each attribute and each subscript that is reached.
The key of a subscript is only read, so a target writes the same with any other keys.
-/

namespace AwaitLint.Node

/-- The other node is reached through lists, tuples and stars only. -/
inductive Reaches : Node → Node → Prop
  | refl (t : Node) : Reaches t t
  | item {items : List Node} {i leaf : Node} (mem : i ∈ items) (further : Reaches i leaf) :
      Reaches (sequence items) leaf
  | starred {t leaf : Node} (further : Reaches t leaf) : Reaches (starred t) leaf

/-- The object expression of an attribute or a subscript. -/
def object? : Node → Option Node
  | attr value _ | subscript value _ => some value
  | _ => none

/-- The expression is the object of an attribute or a subscript that is reached. -/
def WritesInto (t v : Node) : Prop := ∃ leaf, t.Reaches leaf ∧ leaf.object? = some v

/-- Names, attributes and subscripts, and lists, tuples and stars of such. -/
inductive IsTarget : Node → Prop
  | name (id : String) : IsTarget (name id)
  | attr (value : Node) (field : String) : IsTarget (attr value field)
  | subscript (value index : Node) : IsTarget (subscript value index)
  | sequence {items : List Node} (parts : ∀ i ∈ items, IsTarget i) : IsTarget (sequence items)
  | starred {value : Node} (part : IsTarget value) : IsTarget (starred value)

mutual

/-- The target with the key of each subscript that is reached exchanged. -/
def rekey (f : Node → Node) : Node → Node
  | sequence items => sequence (rekeyAll f items)
  | starred value => starred (value.rekey f)
  | subscript value index => subscript value (f index)
  | t => t

def rekeyAll (f : Node → Node) : List Node → List Node
  | [] => []
  | x :: xs => x.rekey f :: rekeyAll f xs

end

/-! ## Through lists, tuples and stars -/

/-- Lists, tuples and stars. -/
def isSpread : Node → Bool
  | sequence _ | starred _ => true
  | _ => false

theorem inductionOnTarget {motive : Node → Prop} (t : Node)
    (sequence : ∀ items, (∀ i ∈ items, motive i) → motive (sequence items))
    (starred : ∀ value, motive value → motive (starred value))
    (leaf : ∀ t, t.isSpread = false → motive t) : motive t := by
  cases t with
  | sequence items => exact sequence items fun i _ => inductionOnTarget i sequence starred leaf
  | starred value => exact starred value (inductionOnTarget value sequence starred leaf)
  | _ => exact leaf _ rfl
termination_by sizeOf t

theorem bindsAll_eq_flatMap (xs : List Node) : bindsAll xs = xs.flatMap binds := by
  induction xs with
  | nil => rfl
  | cons x xs ih => rw [bindsAll, ih, List.flatMap_cons]

theorem writesAll_eq_flatMap (xs : List Node) : writesAll xs = xs.flatMap writes := by
  induction xs with
  | nil => rfl
  | cons x xs ih => rw [writesAll, ih, List.flatMap_cons]

theorem rekeyAll_eq_map (f : Node → Node) (xs : List Node) : rekeyAll f xs = xs.map (rekey f) := by
  induction xs with
  | nil => rfl
  | cons x xs ih => rw [rekeyAll, ih, List.map_cons]

theorem reaches_leaf_iff {t leaf : Node} (h : t.isSpread = false) : t.Reaches leaf ↔ leaf = t := by
  constructor
  · rintro (_ | _ | _)
    · rfl
    · cases h
    · cases h
  · rintro rfl
    exact .refl leaf

theorem writesInto_leaf {t v : Node} (h : t.isSpread = false) : t.WritesInto v ↔ t.object? = some v := by
  simp [WritesInto, reaches_leaf_iff h]

theorem writesInto_sequence {items : List Node} {v : Node} :
    (sequence items).WritesInto v ↔ ∃ i ∈ items, i.WritesInto v := by
  constructor
  · rintro ⟨leaf, reach, object⟩
    cases reach with
    | refl => cases object
    | item mem further => exact ⟨_, mem, leaf, further, object⟩
  · rintro ⟨i, mem, leaf, further, object⟩
    exact ⟨leaf, .item mem further, object⟩

theorem writesInto_starred {t v : Node} : (starred t).WritesInto v ↔ t.WritesInto v := by
  constructor
  · rintro ⟨leaf, reach, object⟩
    cases reach with
    | refl => cases object
    | starred further => exact ⟨leaf, further, object⟩
  · rintro ⟨leaf, further, object⟩
    exact ⟨leaf, .starred further, object⟩

/-! ## The written names -/

/-- A leaf with an object writes what the object reads, any other one what it binds. -/
theorem mem_writes_leaf {t : Node} {x : String} (h : t.isSpread = false) :
    x ∈ t.writes ↔ x ∈ t.binds ∨ ∃ v, t.object? = some v ∧ x ∈ v.reads := by
  cases t with
  | sequence | starred => cases h
  | attr | subscript => simp [writes, binds, object?]
  | _ => simp [writes, object?]

theorem mem_writes_iff {t : Node} {x : String} :
    x ∈ t.writes ↔ x ∈ t.binds ∨ ∃ v, t.WritesInto v ∧ x ∈ v.reads := by
  induction t using inductionOnTarget with
  | leaf t h => rw [mem_writes_leaf h]; simp only [writesInto_leaf h]
  | starred value ih => simpa only [writes, binds, writesInto_starred] using ih
  | sequence items ih =>
    rw [writes, binds, writesAll_eq_flatMap, bindsAll_eq_flatMap, List.mem_flatMap, List.mem_flatMap]
    simp only [writesInto_sequence]
    constructor
    · rintro ⟨i, mem, hx⟩
      rcases (ih i mem).1 hx with hx | ⟨v, into, hx⟩
      · exact .inl ⟨i, mem, hx⟩
      · exact .inr ⟨v, ⟨i, mem, into⟩, hx⟩
    · rintro (⟨i, mem, hx⟩ | ⟨v, ⟨i, mem, into⟩, hx⟩)
      · exact ⟨i, mem, (ih i mem).2 (.inl hx)⟩
      · exact ⟨i, mem, (ih i mem).2 (.inr ⟨v, into, hx⟩)⟩

/-- The names that a target binds are those that are reached as plain targets. -/
theorem IsTarget.mem_binds_iff {t : Node} (h : t.IsTarget) {x : String} :
    x ∈ t.binds ↔ t.Reaches (.name x) := by
  induction h with
  | name | attr | subscript =>
    rw [reaches_leaf_iff rfl]
    simp [binds]
  | starred part ih =>
    rw [binds, ih]
    refine ⟨.starred, fun reach => ?_⟩
    cases reach with
    | starred further => exact further
  | sequence parts ih =>
    rw [binds, bindsAll_eq_flatMap, List.mem_flatMap]
    constructor
    · rintro ⟨i, mem, hx⟩
      exact .item mem ((ih i mem).1 hx)
    · intro reach
      cases reach with
      | item mem further => exact ⟨_, mem, (ih _ mem).2 further⟩

theorem writes_rekey (f : Node → Node) (t : Node) : (t.rekey f).writes = t.writes := by
  induction t using inductionOnTarget with
  | sequence items ih =>
    rw [rekey, writes, writes, rekeyAll_eq_map, writesAll_eq_flatMap, writesAll_eq_flatMap,
      List.flatMap_map]
    exact List.flatMap_congr ih
  | starred value ih => rw [rekey, writes, ih, writes]
  | leaf t h =>
    cases t with
    | sequence | starred => cases h
    | subscript => rw [rekey, writes, writes]
    | _ => rfl

/-- The written names are the bound ones together with the names read in the objects that are reached, so
they hold the bound names and are no more than those where no object is reached. A target writes a name of
a key only if the name is read in an object or is itself a plain target, and it writes the same whatever
its keys are. -/
theorem writes_are_bound_or_read (t : Node) :
    (∀ x, x ∈ t.writes ↔ x ∈ t.binds ∨ ∃ v, t.WritesInto v ∧ x ∈ v.reads) ∧
    t.binds ⊆ t.writes ∧
    ((∀ v, ¬ t.WritesInto v) → ∀ x, x ∈ t.writes ↔ x ∈ t.binds) ∧
    (t.IsTarget → ∀ value index, t.Reaches (subscript value index) → ∀ x ∈ index.reads, x ∈ t.writes →
      (∃ v, t.WritesInto v ∧ x ∈ v.reads) ∨ t.Reaches (name x)) ∧
    ∀ f, (t.rekey f).writes = t.writes := by
  refine ⟨fun x => mem_writes_iff, fun x hx => mem_writes_iff.2 (.inl hx), ?_, ?_, fun f => writes_rekey f t⟩
  · intro none x
    rw [mem_writes_iff]
    refine or_iff_left ?_
    rintro ⟨v, into, -⟩
    exact none v into
  · intro target value index _ x _ written
    rcases mem_writes_iff.1 written with bound | read
    · exact .inr (target.mem_binds_iff.1 bound)
    · exact .inl read

/-- `self.users[key], *[key, d[k]]` -/
def targetSample : Node :=
  .sequence [.subscript (.attr (.name "self") "users") (.name "key"),
    .starred (.sequence [.name "key", .subscript (.name "d") (.name "k")])]

/-- `a, *b` -/
def plainSample : Node := .sequence [.name "a", .starred (.name "b")]

theorem isTarget_targetSample : targetSample.IsTarget := by
  have inner : (sequence [.name "key", .subscript (.name "d") (.name "k")]).IsTarget :=
    .sequence (by simp [IsTarget.name, IsTarget.subscript])
  exact .sequence (by simp [IsTarget.subscript, inner.starred])

theorem writes_are_bound_or_read_targetSample :
    targetSample.IsTarget ∧ "key" ∈ targetSample.writes ∧ "k" ∉ targetSample.writes ∧
    ((∃ v, targetSample.WritesInto v ∧ "key" ∈ v.reads) ∨ targetSample.Reaches (name "key")) ∧
    (∀ v, ¬ plainSample.WritesInto v) ∧ ∀ x, x ∈ plainSample.writes ↔ x ∈ plainSample.binds := by
  obtain ⟨-, -, -, keys, -⟩ := writes_are_bound_or_read targetSample
  obtain ⟨-, -, same, -⟩ := writes_are_bound_or_read plainSample
  have written : "key" ∈ targetSample.writes := by decide
  have plain : ∀ v, ¬ plainSample.WritesInto v := by
    have name : ∀ id v, ¬ (name id).WritesInto v := by
      intro id v
      rw [writesInto_leaf rfl]
      simp [object?]
    simp [plainSample, writesInto_sequence, writesInto_starred, name]
  have reach : targetSample.Reaches (subscript (.attr (.name "self") "users") (name "key")) :=
    .item List.mem_cons_self (.refl _)
  exact ⟨isTarget_targetSample, written, by decide,
    keys isTarget_targetSample _ _ reach "key" (by decide) written, plain, same plain⟩

end AwaitLint.Node
