import AwaitLint.Proofs.NameMentions
import AwaitLint.Proofs.WrittenNames

/-! # The names that a match pattern binds

A pattern binds a name by a capture, by the star of a sequence or by the rest of a mapping. The names that are
collected from a pattern are those that a generic walk finds at such nodes, at any depth. The walk also goes through
what a pattern only looks up: the keys of mappings, classes, values and the names of attributes. These are expressions,
which hold no patterns, and nothing in them is bound.
-/

namespace AwaitLint.Node

/-- A pattern other than a literal. A literal is a constant, as in an expression. -/
def isPattern : Node → Bool
  | capture .. | captureRest _ | patterns _ | mappingPattern .. | classPattern .. | valuePattern _ => true
  | _ => false

/-- The name that a node captures with, if it has one. -/
def captureName? : Node → Option String
  | capture id _ | captureRest id | mappingPattern _ _ id => id
  | _ => none

/-- No pattern stands in the tree, at any depth. -/
inductive Patternless : Node → Prop
  | node {n : Node} (kind : n.isPattern = false) (parts : ∀ m ∈ n.children, Patternless m) : Patternless n

/-- Match patterns, and the gap where one may be missing. Names that are given are not empty. -/
inductive IsPattern : Node → Prop
  | absent : IsPattern absent
  | literal : IsPattern constant
  | value {lookup : Node} (plain : lookup.Patternless) : IsPattern (valuePattern lookup)
  | capture {id : Option String} {pattern : Node} (filled : id ≠ some "") (part : IsPattern pattern) :
      IsPattern (capture id pattern)
  | star {id : Option String} (filled : id ≠ some "") : IsPattern (captureRest id)
  | group {parts : List Node} (each : ∀ p ∈ parts, IsPattern p) : IsPattern (patterns parts)
  | mapping {keys parts : List Node} {rest : Option String} (plain : ∀ k ∈ keys, k.Patternless)
      (each : ∀ p ∈ parts, IsPattern p) (filled : rest ≠ some "") : IsPattern (mappingPattern keys parts rest)
  | ofClass {cls : Node} {parts : List Node} {attrs : List String} {attrParts : List Node} (plain : cls.Patternless)
      (positional : ∀ p ∈ parts, IsPattern p) (named : ∀ p ∈ attrParts, IsPattern p) :
      IsPattern (classPattern cls parts attrs attrParts)

/-- Every pattern that a generic walk of the tree meets is a match pattern, with expressions in its lookups. -/
def WellSorted (n : Node) : Prop := ∀ o ∈ n.occurrences, o.node.isPattern = true → o.node.IsPattern

mutual

/-- The pattern with everything that it looks up exchanged: keys, classes and values by `f`, names of attributes
by `g`. -/
def relookup (f : Node → Node) (g : String → String) : Node → Node
  | capture id pattern => capture id (pattern.relookup f g)
  | patterns parts => patterns (relookupAll f g parts)
  | mappingPattern keys parts rest => mappingPattern (keys.map f) (relookupAll f g parts) rest
  | classPattern cls parts attrs attrParts =>
      classPattern (f cls) (relookupAll f g parts) (attrs.map g) (relookupAll f g attrParts)
  | valuePattern value => valuePattern (f value)
  | p => p

def relookupAll (f : Node → Node) (g : String → String) : List Node → List Node
  | [] => []
  | x :: xs => x.relookup f g :: relookupAll f g xs

end

/-! ## What a walk captures -/

/-- A generic walk from the node meets one that captures with the name `x`. -/
def Captures (n : Node) (x : String) : Prop := ∃ o ∈ n.occurrences, o.node.captureName? = some x

theorem captures_iff {n : Node} {x : String} :
    n.Captures x ↔ n.captureName? = some x ∨ ∃ m ∈ n.children, m.Captures x := by
  constructor
  · intro h
    obtain ⟨o, ho, hname⟩ := h
    rcases mem_occurrences.1 ho with rfl | ⟨m, hm, q, hq, rfl⟩
    · exact .inl hname
    · exact .inr ⟨m, hm, q, hq, hname⟩
  · intro h
    rcases h with hname | ⟨m, hm, q, hq, hname⟩
    · exact ⟨_, self_mem_occurrences n, hname⟩
    · exact ⟨_, mem_occurrences.2 (.inr ⟨m, hm, q, hq, rfl⟩), hname⟩

theorem captureName?_eq_none {n : Node} (h : n.isPattern = false) : n.captureName? = none := by
  cases n with
  | capture | captureRest | mappingPattern => cases h
  | _ => rfl

theorem Patternless.not_captures {n : Node} (h : n.Patternless) (x : String) : ¬ n.Captures x := by
  induction h with
  | node kind _ ih =>
    rw [captures_iff, captureName?_eq_none kind]
    simp only [reduceCtorEq, false_or, not_exists, not_and]
    exact ih

/-- No lookup in a list captures a name. -/
theorem exists_captures_append {lookups parts : List Node} (plain : ∀ k ∈ lookups, k.Patternless) {x : String} :
    (∃ m ∈ lookups ++ parts, m.Captures x) ↔ ∃ p ∈ parts, p.Captures x := by
  simp only [List.mem_append, or_and_right, exists_or]
  apply or_iff_right
  intro h
  obtain ⟨k, hk, hx⟩ := h
  exact (plain k hk).not_captures x hx

/-! ## What is bound -/

theorem mem_captured {id : Option String} (filled : id ≠ some "") {x : String} :
    x ∈ captured id ↔ id = some x := by
  cases id with
  | none => simp [captured]
  | some id =>
    have hid : id ≠ "" := fun h => filled (congrArg some h)
    simp [captured, hid, eq_comm]

theorem mem_bindsAll_iff {parts : List Node} {x : String} (ih : ∀ p ∈ parts, (x ∈ p.binds ↔ p.Captures x)) :
    x ∈ bindsAll parts ↔ ∃ p ∈ parts, p.Captures x := by
  rw [bindsAll_eq_flatMap, List.mem_flatMap]
  exact exists_congr fun p => and_congr_right fun hp => ih p hp

/-- A pattern binds the names with which a walk finds that it captures. -/
theorem IsPattern.mem_binds_iff {p : Node} (h : p.IsPattern) {x : String} : x ∈ p.binds ↔ p.Captures x := by
  induction h with
  | absent | literal =>
    rw [captures_iff]
    simp [binds, captureName?, children]
  | @value lookup plain =>
    have := plain.not_captures x
    rw [captures_iff]
    simpa [binds, captureName?, children]
  | capture filled _ ih =>
    rw [captures_iff, binds, List.mem_append, mem_captured filled, ih]
    simp [captureName?, children]
  | star filled =>
    rw [captures_iff, binds, mem_captured filled]
    simp [captureName?, children]
  | group _ ih =>
    rw [captures_iff, binds, mem_bindsAll_iff ih]
    simp [captureName?, children]
  | mapping plain _ filled ih =>
    -- the walk enters the keys as well, but no node in them captures
    rw [captures_iff, binds, List.mem_append, mem_bindsAll_iff ih, mem_captured filled, or_comm, children,
      exists_captures_append plain, captureName?]
  | @ofClass cls parts attrs attrParts plain _ _ positional named =>
    have lookup : ∀ k ∈ [cls], k.Patternless := List.forall_mem_singleton.2 plain
    rw [captures_iff, binds, List.mem_append, mem_bindsAll_iff positional, mem_bindsAll_iff named, children]
    change _ ↔ _ ∨ ∃ m ∈ [cls] ++ parts ++ attrParts, _
    rw [List.append_assoc, exists_captures_append lookup]
    simp [captureName?, or_and_right, exists_or]

theorem relookupAll_eq_map (f : Node → Node) (g : String → String) (xs : List Node) :
    relookupAll f g xs = xs.map (relookup f g) := by
  induction xs with
  | nil => rfl
  | cons x xs ih => rw [relookupAll, ih, List.map_cons]

theorem bindsAll_relookupAll {f : Node → Node} {g : String → String} {parts : List Node}
    (ih : ∀ p ∈ parts, (p.relookup f g).binds = p.binds) : bindsAll (relookupAll f g parts) = bindsAll parts := by
  rw [relookupAll_eq_map, bindsAll_eq_flatMap, bindsAll_eq_flatMap, List.flatMap_map]
  exact List.flatMap_congr ih

/-- What a pattern looks up has no part in what it binds. -/
theorem IsPattern.binds_relookup {p : Node} (h : p.IsPattern) (f : Node → Node) (g : String → String) :
    (p.relookup f g).binds = p.binds := by
  induction h with
  | absent | literal | star | value => rfl
  | capture _ _ ih => rw [relookup, binds, binds, ih]
  | group _ ih => rw [relookup, binds, binds, bindsAll_relookupAll ih]
  | mapping _ _ _ ih => rw [relookup, binds, binds, bindsAll_relookupAll ih]
  | ofClass _ _ _ positional named =>
    rw [relookup, binds, binds, bindsAll_relookupAll positional, bindsAll_relookupAll named]

end AwaitLint.Node
