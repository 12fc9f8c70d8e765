import AwaitLint.Grammar.Statement
import AwaitLint.Proofs.ExpressionTrees

/-! # Patterns look expressions up

The rules for patterns give match patterns: what they look up comes from the rules for expressions, and a name that they
capture with was read from the text, so it is not empty.
-/

namespace AwaitLint

namespace Node

/-! ## Trees in which patterns are match patterns -/

theorem wellSorted_iff {n : Node} :
    n.WellSorted ↔ (n.isPattern = true → n.IsPattern) ∧ ∀ m ∈ n.children, m.WellSorted := by
  constructor
  · intro h
    refine ⟨h _ (self_mem_occurrences n), fun m hm o ho => ?_⟩
    exact h ⟨o.node, o.above ++ [n]⟩ (mem_occurrences.2 (.inr ⟨m, hm, o, ho, rfl⟩))
  · intro h o ho
    rcases mem_occurrences.1 ho with rfl | ⟨m, hm, q, hq, rfl⟩
    · exact h.1
    · exact h.2 m hm q hq

theorem WellSorted.node {n : Node} (kind : n.isPattern = false) (parts : ∀ m ∈ n.children, m.WellSorted) :
    n.WellSorted := by
  refine wellSorted_iff.2 ⟨fun h => ?_, parts⟩
  rw [kind] at h
  cases h

theorem Patternless.wellSorted {n : Node} (h : n.Patternless) : n.WellSorted := by
  induction h with
  | node kind _ ih => exact .node kind ih

theorem IsPattern.wellSorted {p : Node} (h : p.IsPattern) : p.WellSorted := by
  have here {p : Node} (h : p.IsPattern) (parts : ∀ m ∈ p.children, m.WellSorted) : p.WellSorted :=
    wellSorted_iff.2 ⟨fun _ => h, parts⟩
  induction h with
  | absent => exact patternless_absent.wellSorted
  | literal => exact patternless_constant.wellSorted
  | value plain => exact here (.value plain) (List.forall_mem_singleton.2 plain.wellSorted)
  | capture filled part ih => exact here (.capture filled part) (List.forall_mem_singleton.2 ih)
  | star filled => exact here (.star filled) (List.forall_mem_nil _)
  | group each ih => exact here (.group each) ih
  | mapping plain each filled ih =>
    have keys := fun k hk => (plain k hk).wellSorted
    exact here (.mapping plain each filled) (List.forall_mem_append.2 ⟨keys, ih⟩)
  | ofClass plain positional named ih ih' =>
    refine here (.ofClass plain positional named) (List.forall_mem_append.2 ⟨?_, ih'⟩)
    exact List.forall_mem_cons.2 ⟨plain.wellSorted, ih⟩

/-! ## Labels make no difference -/

theorem isPattern_number {n : Node} {k : Nat} : (n.number k).1.isPattern = n.isPattern := by
  cases n <;> simp [number, isPattern]

theorem forall_mem_numberAll {P : Node → Prop} {ns : List Node} (h : ∀ n ∈ ns, ∀ k, P (n.number k).1) (k : Nat) :
    ∀ m ∈ (numberAll ns k).1, P m := by
  intro m hm
  obtain ⟨n, hn, l, rfl⟩ := mem_numberAll hm
  exact h n hn l

theorem mem_children_iff {n m : Node} : m ∈ n.children ↔ m ∈ n.outerParts ∨ m ∈ n.innerParts := by
  cases n
  case asyncDef =>
    simp only [children, outerParts, innerParts, List.mem_append, List.mem_cons]
    tauto
  all_goals simp [outerParts, innerParts]

theorem forall_mem_children_number {P : Node → Prop} {n : Node} (h : ∀ m ∈ n.children, ∀ k, P (m.number k).1)
    (k : Nat) : ∀ m ∈ (n.number k).1.children, P m := by
  intro m hm
  rcases mem_children_iff.1 hm with hm | hm
  · rw [outerParts_number] at hm
    exact forall_mem_numberAll (fun c hc => h c (mem_children_iff.2 (.inl hc))) _ m hm
  · rw [innerParts_number] at hm
    exact forall_mem_numberAll (fun c hc => h c (mem_children_iff.2 (.inr hc))) _ m hm

theorem Patternless.number {n : Node} (h : n.Patternless) (k : Nat) : (n.number k).1.Patternless := by
  induction h generalizing k with
  | node kind _ ih => exact .node (isPattern_number.trans kind) (forall_mem_children_number ih k)

theorem IsPattern.number {p : Node} (h : p.IsPattern) (k : Nat) : (p.number k).1.IsPattern := by
  induction h generalizing k with
  | absent => exact .absent
  | literal => exact .literal
  | value plain => exact .value (plain.number k)
  | capture filled _ ih => exact .capture filled (ih k)
  | star filled => exact .star filled
  | group _ ih => exact .group (forall_mem_numberAll ih k)
  | mapping plain _ filled ih =>
    exact .mapping (forall_mem_numberAll (fun key hkey => (plain key hkey).number) k) (forall_mem_numberAll ih _) filled
  | ofClass plain _ _ ih ih' =>
    exact .ofClass (plain.number k) (forall_mem_numberAll ih _) (forall_mem_numberAll ih' _)

theorem WellSorted.number {n : Node} (h : n.WellSorted) (k : Nat) : (n.number k).1.WellSorted := by
  induction n using inductionOnParts generalizing k with
  | step n outer inner =>
    obtain ⟨here, parts⟩ := wellSorted_iff.1 h
    refine wellSorted_iff.2 ⟨fun kind => ?_, forall_mem_children_number (fun m hm l => ?_) k⟩
    · rw [isPattern_number] at kind
      exact (here kind).number k
    · rcases mem_children_iff.1 hm with hm' | hm'
      · exact outer m hm' (parts m hm) l
      · exact inner m hm' (parts m hm) l

end Node

namespace Grammar

open AwaitLint.Node (Patternless IsPattern WellSorted patternless_absent patternless_name patternless_constant)
open AwaitLint.Grammar.Parser

/-! ## Patterns -/

theorem passes_noCaptureSign : Passes noCaptureSign := by
  refine .bind .peekKind fun kind => ?_
  split
  · exact .fail
  · exact .fail
  · exact .fail
  · exact .pure

theorem gives_captureTarget : Gives (fun id => id ≠ "") captureTarget := by
  refine .skip (.nextIsWord _) fun _ => .ite .fail (.bind .name fun id hid => ?_)
  exact .skip passes_noCaptureSign fun _ => .pure hid

theorem passes_signedNumber : Passes signedNumber := by
  refine .bind (.accept _) fun _ => .bind .peekKind fun kind => ?_
  split
  · exact .bind .advance fun _ => .bind (gives_numberLiteral _).passes fun _ => .pure
  · exact .fail

theorem passes_imaginaryPart : Passes imaginaryPart := by
  refine .bind .advance fun _ => .bind .peekKind fun kind => ?_
  split
  · exact .advance
  · exact .fail

theorem passes_numberPattern : Passes numberPattern := by
  refine .bind passes_signedNumber fun first => .bind .peekKind fun kind => ?_
  split
  · exact .ite .fail passes_imaginaryPart
  · exact .ite .fail passes_imaginaryPart
  · exact .pure

theorem gives_dotted {x : Node} (hx : x.Patternless) : Gives (fun r => r.1.Patternless) (dotted x) := by
  refine .loop (I := fun acc => acc.1.Patternless) hx fun acc hacc => .skip (.accept _) fun _ => .ite ?_ (.pure hacc)
  exact .skip .name fun _ => .pure (Patternless.wrap rfl rfl hacc)

theorem passes_partName : Passes partName? := by
  refine .bind .peekKind fun kind => ?_
  split
  · exact .bind .peekSecond fun _ => .pure
  · exact .pure

/-- The items read so far are keys without patterns and match patterns, and the name for the rest is not empty. -/
structure MappingSorted (m : MappingItems) : Prop where
  keys : ∀ k ∈ m.keys, k.Patternless
  parts : ∀ p ∈ m.parts, p.IsPattern
  rest : m.rest ≠ some ""

structure ClassSorted (p : ClassParts) : Prop where
  parts : ∀ q ∈ p.parts, q.IsPattern
  attrParts : ∀ q ∈ p.attrParts, q.IsPattern

namespace Rules.WellSorted

variable {r : Rules} (h : r.WellSorted)

include h

theorem gives_literal : Gives (fun x => ∀ n ∈ x, n.Patternless) (literal? r) := by
  have found {x : Node} (hx : x.Patternless) : ∀ n ∈ some x, n.Patternless := fun n hn => Option.some.inj hn ▸ hx
  have constant {p : Parser Unit} (hp : Passes p) : Gives (fun x : Option Node => ∀ n ∈ x, n.Patternless) (do
      p
      return some .constant) := .skip hp fun _ => .pure (found patternless_constant)
  refine .skip .peekKind fun kind => ?_
  split
  · exact constant passes_numberPattern
  · exact constant passes_numberPattern
  · exact .bind (gives_strings h.gives_starExpressions) fun x hx => .pure (found hx)
  · exact constant .advance
  · exact constant .advance
  · exact constant .advance
  · exact .pure fun n hn => nomatch hn

theorem gives_maybeStarPattern : Gives IsPattern (maybeStarPattern r) := by
  refine .skip (.accept _) fun _ => .ite (.skip (.nextIsWord _) fun _ => .ite ?_ ?_) h.pattern
  · exact .skip .advance fun _ => .pure (.star nofun)
  · exact .bind gives_captureTarget fun id hid => .pure (.star (mt Option.some.inj hid))

theorem gives_openSequence : Gives IsPattern (openSequence r) := by
  refine .bind (.commaList h.gives_maybeStarPattern) fun items hitems => ?_
  split
  · exact .ite .fail (.pure (hitems _ List.mem_cons_self))
  · exact .pure (.group hitems)

theorem gives_mappingKey : Gives Patternless (mappingKey r) := by
  refine .bind h.gives_literal fun found hfound => ?_
  split
  · exact .pure (hfound _ rfl)
  · refine .skip .name fun id => .bind (gives_dotted (patternless_name id)) fun k hk => ?_
    exact .ite (.pure hk) .fail

theorem gives_mappingPattern : Gives IsPattern (mappingPattern r) := by
  refine .skip (.expect _) fun _ => Gives.bind (P := MappingSorted) ?_ fun m hm => .skip (.expect _) fun _ => ?_
  · refine .loop (I := MappingSorted) ⟨List.forall_mem_nil _, List.forall_mem_nil _, nofun⟩ fun m hm => ?_
    refine .skip (.nextIs _) fun _ => .ite (.pure hm) (.skip (.accept _) fun _ => .ite ?_ ?_)
    · refine .bind gives_captureTarget fun id hid => .skip (.accept _) fun _ => ?_
      exact .pure { hm with rest := mt Option.some.inj hid }
    · refine .bind h.gives_mappingKey fun key hkey => .skip (.expect _) fun _ => .bind h.pattern fun part hpart => ?_
      have more : MappingSorted { m with keys := key :: m.keys, parts := part :: m.parts } :=
        ⟨List.forall_mem_cons.2 ⟨hkey, hm.keys⟩, List.forall_mem_cons.2 ⟨hpart, hm.parts⟩, hm.rest⟩
      exact .skip (.accept _) fun _ => .ite (.pure more) (.pure more)
  · exact .pure (.mapping (forall_mem_reverse hm.keys) (forall_mem_reverse hm.parts) hm.rest)

theorem gives_classPart {p : ClassParts} (hp : ClassSorted p) : Gives ClassSorted (classPart r p) := by
  refine .skip passes_partName fun target => ?_
  split
  · refine .skip .advance fun _ => .skip .advance fun _ => .bind h.pattern fun x hx => ?_
    exact .pure ⟨hp.parts, List.forall_mem_cons.2 ⟨hx, hp.attrParts⟩⟩
  · refine .ite (.bind h.pattern fun x hx => ?_) .fail
    exact .pure ⟨List.forall_mem_cons.2 ⟨hx, hp.parts⟩, hp.attrParts⟩

theorem gives_classParts {cls : Node} (hcls : cls.Patternless) : Gives IsPattern (classParts r cls) := by
  refine .skip (.expect _) fun _ => Gives.bind (P := ClassSorted) ?_ fun p hp => .skip (.expect _) fun _ => ?_
  · refine .loop (I := ClassSorted) ⟨List.forall_mem_nil _, List.forall_mem_nil _⟩ fun p hp => ?_
    refine .skip (.nextIs _) fun _ => .ite (.pure hp) (.bind (h.gives_classPart hp) fun q hq => ?_)
    exact .skip (.accept _) fun _ => .ite (.pure hq) (.pure hq)
  · exact .pure (.ofClass hcls (forall_mem_reverse hp.parts) (forall_mem_reverse hp.attrParts))

theorem gives_namePattern : Gives IsPattern (namePattern r) := by
  refine .skip (.nextIsWord _) fun _ => .ite ?_ ?_
  · exact .skip .advance fun _ => .pure (.capture nofun .absent)
  refine .bind .name fun id hid => .bind (gives_dotted (patternless_name id)) fun x hx => ?_
  refine .skip (.nextIs _) fun _ => .ite (h.gives_classParts hx) (.skip (.nextIs _) fun _ => .ite .fail ?_)
  refine .pure ?_
  split
  · exact .value hx
  · exact .capture (mt Option.some.inj hid) .absent

theorem gives_closedPattern : Gives IsPattern (closedPattern r) := by
  refine .bind h.gives_literal fun found hfound => ?_
  split
  · exact .pure .literal
  · exact .pure (.value (hfound _ rfl))
  have empty : (Node.patterns []).IsPattern := .group (List.forall_mem_nil _)
  refine .skip .peekKind fun kind => ?_
  split
  · exact h.gives_namePattern
  · refine .skip .advance fun _ => .skip (.accept _) fun _ => .ite (.pure empty) ?_
    exact .bind h.gives_openSequence fun p hp => .skip (.expect _) fun _ => .pure hp
  · refine .skip .advance fun _ => .skip (.accept _) fun _ => .ite (.pure empty) ?_
    refine .bind (.commaList h.gives_maybeStarPattern) fun items hitems => ?_
    exact .skip (.expect _) fun _ => .pure (.group hitems)
  · exact h.gives_mappingPattern
  · exact .fail

theorem gives_patternRule : Gives IsPattern (patternRule r) := by
  refine .bind h.gives_closedPattern fun first hfirst => ?_
  refine .bind (gives_operands (.accept _) h.gives_closedPattern hfirst .patterns fun _ => .group) fun p hp => ?_
  refine .skip (.accept _) fun _ => .ite (.bind gives_captureTarget fun id hid => ?_) (.pure hp)
  exact .pure (.capture (mt Option.some.inj hid) hp)

end Rules.WellSorted

end Grammar

end AwaitLint
