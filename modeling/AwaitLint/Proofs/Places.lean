import AwaitLint.Node
import Mathlib.Data.List.Flatten
import Mathlib.Data.List.Nodup
import Mathlib.Data.List.Perm.Basic

/-! # The places of a tree

A place is a node of a tree together with the async functions whose bodies hold it. The decorators, the
parameters and the return type of an async function stand in the scope around it, so only its body is
held. Places are listed in the order of a walk. A function owns the places of which it is the innermost
holder; if no label occurs twice, these are the nodes in the scope of its body's statements.
-/

namespace AwaitLint

namespace Node

/-- The parts of a node that stand in the same scope as the node, in the order of a walk. -/
def outerParts : Node → List Node
  | asyncDef _ _ _ decorators parameters returns _ => decorators ++ [parameters, returns]
  | n => n.children

/-- The body of an async function; no other node opens a scope. -/
def innerParts : Node → List Node
  | asyncDef _ _ _ _ _ _ body => body
  | _ => []

def functionLabel? : Node → Option Nat
  | asyncDef label .. => some label
  | _ => none

/-- The label, the span and the operand of an await. -/
def await? : Node → Option (Nat × Span × Node)
  | await label span value => some (label, span, value)
  | _ => none

/-- The label of an await or of an async function. -/
def label? : Node → Option Nat
  | await label .. => some label
  | asyncDef label .. => some label
  | _ => none

theorem label?_of_functionLabel? {n : Node} {l : Nat} (h : n.functionLabel? = some l) :
    n.label? = some l := by
  cases n <;> simp_all [functionLabel?, label?]

theorem label?_of_await? {n v : Node} {l : Nat} {s : Span} (h : n.await? = some (l, s, v)) :
    n.label? = some l := by
  cases n <;> simp_all [await?, label?]

theorem sizeOf_lt_of_mem_children {m n : Node} (h : m ∈ n.children) : sizeOf m < sizeOf n := by
  cases n <;> simp only [children, List.mem_append, List.mem_cons, List.not_mem_nil, or_false] at h
  all_goals grind [→ List.sizeOf_lt_of_mem]

theorem sizeOf_lt_of_mem_outerParts {m n : Node} (h : m ∈ n.outerParts) : sizeOf m < sizeOf n := by
  refine sizeOf_lt_of_mem_children ?_
  cases n
  case asyncDef => simp only [outerParts, children, List.mem_append, List.mem_cons] at h ⊢; grind
  all_goals exact h

theorem sizeOf_lt_of_mem_innerParts {m n : Node} (h : m ∈ n.innerParts) : sizeOf m < sizeOf n := by
  refine sizeOf_lt_of_mem_children ?_
  cases n
  case asyncDef => exact List.mem_append_left _ (List.mem_append_left _ (List.mem_cons_of_mem _ h))
  all_goals exact absurd h List.not_mem_nil

/-- Induction over a tree: a node from its parts in its own scope and in the scope it opens. -/
@[elab_as_elim]
theorem inductionOnParts {motive : Node → Prop} (n : Node)
    (step : ∀ n : Node, (∀ m ∈ n.outerParts, motive m) → (∀ m ∈ n.innerParts, motive m) → motive n) :
    motive n :=
  step n (fun m _ => inductionOnParts m step) (fun m _ => inductionOnParts m step)
termination_by sizeOf n
decreasing_by
  · exact sizeOf_lt_of_mem_outerParts ‹_›
  · exact sizeOf_lt_of_mem_innerParts ‹_›

/-- The nodes below a node that stand in its own scope, the node first, in the order of a walk. -/
def own (n : Node) : List Node := n :: n.outerParts.attach.flatMap fun m => m.1.own
termination_by sizeOf n
decreasing_by exact sizeOf_lt_of_mem_outerParts m.2

theorem own_eq (n : Node) : n.own = n :: n.outerParts.flatMap own := by
  rw [own]
  simp

end Node

/-- An async function in another one, with an await in a decorator, in its body and around it. -/
def Node.nestedSample : Node :=
  let at? (line : Int) : Span := ⟨line, 0, none, none⟩
  .compound [.asyncDef 0 (at? 1) "outer" [] .absent .absent
    [.exprStmt (at? 2) (.await 0 (at? 2) (.call (.name "a") [] [])),
      .asyncDef 0 (at? 4) "inner" [.await 0 (at? 3) (.name "b")] .absent .absent
        [.exprStmt (at? 5) (.await 0 (at? 5) (.call (.attr (.name "asyncio") "wait") [] []))]]]

/-- A node of a tree, with the labels of the async functions whose bodies hold it, innermost first. -/
structure Place where
  node : Node
  owners : List Nat

/-- The place of a whole tree: no function is around it. -/
def Node.root (tree : Node) : Place := ⟨tree, []⟩

namespace Place

/-- The parts of a place in the order of a walk. -/
def parts (p : Place) : List Place :=
  (p.node.outerParts.map fun m => ⟨m, p.owners⟩)
    ++ p.node.innerParts.map fun m => ⟨m, p.node.functionLabel?.toList ++ p.owners⟩

theorem mem_parts {p q : Place} : q ∈ p.parts ↔
    (q.node ∈ p.node.outerParts ∧ q.owners = p.owners) ∨
      (q.node ∈ p.node.innerParts ∧ q.owners = p.node.functionLabel?.toList ++ p.owners) := by
  obtain ⟨n, owners⟩ := q
  simp only [parts, List.mem_append, List.mem_map, mk.injEq]
  grind

theorem outerPart_mem_parts {p : Place} {m : Node} (h : m ∈ p.node.outerParts) :
    ⟨m, p.owners⟩ ∈ p.parts := mem_parts.2 (.inl ⟨h, rfl⟩)

theorem innerPart_mem_parts {p : Place} {m : Node} (h : m ∈ p.node.innerParts) :
    ⟨m, p.node.functionLabel?.toList ++ p.owners⟩ ∈ p.parts := mem_parts.2 (.inr ⟨h, rfl⟩)

theorem flatMap_parts {β : Type} (f : Place → List β) (p : Place) :
    p.parts.flatMap f = (p.node.outerParts.flatMap fun m => f ⟨m, p.owners⟩)
      ++ p.node.innerParts.flatMap fun m => f ⟨m, p.node.functionLabel?.toList ++ p.owners⟩ := by
  simp [parts, List.flatMap_map]

theorem sizeOf_node_lt_of_mem_parts {p q : Place} (h : q ∈ p.parts) : sizeOf q.node < sizeOf p.node := by
  rcases mem_parts.1 h with ⟨h, -⟩ | ⟨h, -⟩
  · exact Node.sizeOf_lt_of_mem_outerParts h
  · exact Node.sizeOf_lt_of_mem_innerParts h

/-- Induction over a tree: a place from its parts. -/
@[elab_as_elim]
theorem inductionOnParts {motive : Place → Prop} (p : Place)
    (step : ∀ p : Place, (∀ q ∈ p.parts, motive q) → motive p) : motive p :=
  step p fun q _ => inductionOnParts q step
termination_by sizeOf p.node
decreasing_by exact sizeOf_node_lt_of_mem_parts ‹_›

/-- A place and all places below it, in the order of a walk. -/
def below (p : Place) : List Place := p :: p.parts.attach.flatMap fun q => q.1.below
termination_by sizeOf p.node
decreasing_by exact sizeOf_node_lt_of_mem_parts q.2

theorem below_eq (p : Place) : p.below = p :: p.parts.flatMap below := by
  rw [below]
  simp

theorem mem_below {p q : Place} : q ∈ p.below ↔ q = p ∨ ∃ r ∈ p.parts, q ∈ r.below := by
  rw [below_eq, List.mem_cons, List.mem_flatMap]

theorem below_sublist {p q : Place} (h : q ∈ p.below) : q.below.Sublist p.below := by
  induction p using inductionOnParts with
  | step p ih =>
    rcases mem_below.1 h with rfl | ⟨r, hr, hq⟩
    · exact .refl _
    · have part : r.below.Sublist (p.parts.flatMap below) := by
        simpa using (List.singleton_sublist.2 hr).flatMap below
      rw [below_eq p]
      exact ((ih r hr hq).trans part).cons p

/-- The nodes in the scope of a place are met below it in the same order. -/
theorem own_sublist (p : Place) : p.node.own.Sublist (p.below.map node) := by
  induction p using inductionOnParts with
  | step p ih =>
    have outer : ∀ m ∈ p.node.outerParts, m.own.Sublist ((below ⟨m, p.owners⟩).map node) :=
      fun m hm => ih _ (outerPart_mem_parts hm)
    rw [Node.own_eq, below_eq, List.map_cons, List.map_flatMap, flatMap_parts]
    refine List.Sublist.cons_cons _ ?_
    exact (List.Sublist.flatMap_right _ outer).trans (List.sublist_append_left _ _)

/-- So are the nodes in the scope of a function's body. -/
theorem innerParts_own_sublist (p : Place) :
    (p.node.innerParts.flatMap Node.own).Sublist (p.below.map node) := by
  have inner : ∀ m ∈ p.node.innerParts,
      m.own.Sublist ((below ⟨m, p.node.functionLabel?.toList ++ p.owners⟩).map node) :=
    fun m _ => own_sublist ⟨m, _⟩
  rw [below_eq, List.map_cons, List.map_flatMap, flatMap_parts]
  refine .cons _ ?_
  exact (List.Sublist.flatMap_right _ inner).trans (List.sublist_append_right _ _)

/-! ## Labels -/

/-- The labels of the awaits and of the async functions from a place on. -/
def labels (p : Place) : List Nat := p.below.filterMap fun q => q.node.label?

theorem labels_eq (p : Place) : p.labels = p.node.label?.toList ++ p.parts.flatMap labels := by
  rw [labels, below_eq, List.filterMap_cons, List.filterMap_flatMap]
  cases p.node.label? <;> rfl

theorem mem_labels_of_mem_below {p q : Place} {l : Nat} (hq : q ∈ p.below)
    (hl : q.node.label? = some l) : l ∈ p.labels :=
  List.mem_filterMap.2 ⟨q, hq, hl⟩

theorem labels_subset_of_mem_parts {p q : Place} (h : q ∈ p.parts) : q.labels ⊆ p.labels := by
  intro l hl
  rw [labels_eq]
  exact List.mem_append_right _ (List.mem_flatMap.2 ⟨q, h, hl⟩)

/-- The functions around a place below `p` are those around `p`, after some that stand below `p`. -/
theorem owners_of_mem_below {p q : Place} (h : q ∈ p.below) :
    ∃ inner, q.owners = inner ++ p.owners ∧
      ∀ l ∈ inner, ∃ f ∈ p.below, f.node.functionLabel? = some l := by
  induction p using inductionOnParts with
  | step p ih =>
    rcases mem_below.1 h with rfl | ⟨r, hr, hq⟩
    · exact ⟨[], rfl, by simp⟩
    · obtain ⟨inner, ho, hf⟩ := ih r hr hq
      have hf' : ∀ l ∈ inner, ∃ f ∈ p.below, f.node.functionLabel? = some l := fun l hl =>
        have ⟨f, hf, hl⟩ := hf l hl
        ⟨f, mem_below.2 (.inr ⟨r, hr, hf⟩), hl⟩
      rcases mem_parts.1 hr with ⟨-, h⟩ | ⟨-, h⟩
      · exact ⟨inner, ho.trans (by rw [h]), hf'⟩
      · refine ⟨inner ++ p.node.functionLabel?.toList, by rw [ho, h, List.append_assoc], ?_⟩
        intro l hl
        rcases List.mem_append.1 hl with hl | hl
        · exact hf' l hl
        · exact ⟨p, mem_below.2 (.inl rfl), by simpa using hl⟩

theorem mem_labels_or_mem_owners {p q : Place} {l : Nat} (h : q ∈ p.below) (hl : l ∈ q.owners) :
    l ∈ p.labels ∨ l ∈ p.owners := by
  obtain ⟨inner, ho, hf⟩ := owners_of_mem_below h
  rw [ho, List.mem_append] at hl
  rcases hl with hl | hl
  · obtain ⟨f, hf, hl⟩ := hf l hl
    exact .inl (mem_labels_of_mem_below hf (Node.label?_of_functionLabel? hl))
  · exact .inr hl

/-- No label occurs twice, neither from the place on nor among the functions around it. -/
def Distinct (p : Place) : Prop := p.labels.Nodup ∧ p.labels.Disjoint p.owners

theorem Distinct.part {p q : Place} (h : p.Distinct) (hq : q ∈ p.parts) : q.Distinct := by
  obtain ⟨hn, ho⟩ := h
  have hs := labels_subset_of_mem_parts hq
  rw [labels_eq] at hn
  refine ⟨(List.nodup_flatMap.1 hn.of_append_right).1 q hq, fun l hl hlo => ?_⟩
  rcases mem_parts.1 hq with ⟨-, h⟩ | ⟨-, h⟩
  · exact ho (hs hl) (h ▸ hlo)
  · rcases List.mem_append.1 (h ▸ hlo) with hlo | hlo
    · rw [Node.label?_of_functionLabel? (by simpa using hlo)] at hn
      exact (List.nodup_cons.1 hn).1 (List.mem_flatMap.2 ⟨q, hq, hl⟩)
    · exact ho (hs hl) hlo

/-- A label that occurs below some part is none of the functions around any part. -/
theorem Distinct.not_mem_owners {p q : Place} {l : Nat} (h : p.Distinct) (hq : q ∈ p.parts)
    (hl : l ∈ p.parts.flatMap labels) : l ∉ q.owners := by
  obtain ⟨hn, ho⟩ := h
  have hlp : l ∉ p.owners := ho (labels_eq p ▸ List.mem_append_right _ hl)
  rcases mem_parts.1 hq with ⟨-, h⟩ | ⟨-, h⟩
  · rwa [h]
  · rw [h, List.mem_append, not_or]
    refine ⟨fun hlf => ?_, hlp⟩
    rw [labels_eq, Node.label?_of_functionLabel? (by simpa using hlf)] at hn
    exact (List.nodup_cons.1 hn).1 hl

/-! ## Ownership -/

/-- The places from `p` on whose innermost function has the label `d`. -/
def ownedBy (d : Nat) (p : Place) : List Place := p.below.filter fun q => q.owners.head? = some d

theorem ownedBy_of_head? {d : Nat} {p : Place} (h : p.owners.head? = some d) :
    p.ownedBy d = p :: p.parts.flatMap (ownedBy d) := by
  rw [ownedBy, below_eq, List.filter_cons_of_pos (by simpa using h), List.filter_flatMap]
  rfl

theorem ownedBy_of_head?_ne {d : Nat} {p : Place} (h : p.owners.head? ≠ some d) :
    p.ownedBy d = p.parts.flatMap (ownedBy d) := by
  rw [ownedBy, below_eq, List.filter_cons_of_neg (by simpa using h), List.filter_flatMap]
  rfl

theorem ownedBy_eq_nil {d : Nat} {p : Place} (hd : d ∉ p.labels) (ho : p.owners.head? ≠ some d) :
    p.ownedBy d = [] := by
  rw [ownedBy, List.filter_eq_nil_iff]
  intro q hq
  obtain ⟨inner, h, hf⟩ := owners_of_mem_below hq
  cases inner with
  | nil => simpa [h] using ho
  | cons l inner =>
    obtain ⟨f, hfp, hfl⟩ := hf l List.mem_cons_self
    have hl : l ≠ d := fun e =>
      hd (mem_labels_of_mem_below hfp (Node.label?_of_functionLabel? (e ▸ hfl)))
    simpa [h] using hl

/-- Right inside the body of `d`, what `d` owns is what stands in the same scope. -/
theorem map_node_ownedBy_of_head? {d : Nat} {p : Place} (hd : d ∉ p.labels)
    (ho : p.owners.head? = some d) : (p.ownedBy d).map node = p.node.own := by
  induction p using inductionOnParts with
  | step p ih =>
    have outer : ∀ m ∈ p.node.outerParts, (ownedBy d ⟨m, p.owners⟩).map node = m.own := by
      intro m hm
      have hp := outerPart_mem_parts hm
      exact ih _ hp (fun h => hd (labels_subset_of_mem_parts hp h)) ho
    have inner : ∀ m ∈ p.node.innerParts,
        (ownedBy d ⟨m, p.node.functionLabel?.toList ++ p.owners⟩).map node = [] := by
      intro m hm
      have hp := innerPart_mem_parts hm
      rw [ownedBy_eq_nil (fun h => hd (labels_subset_of_mem_parts hp h)), List.map_nil]
      obtain ⟨l, hl⟩ : ∃ l, p.node.functionLabel? = some l := by
        cases hn : p.node <;> simp_all [Node.innerParts, Node.functionLabel?]
      have hne : l ≠ d := fun e => hd (mem_labels_of_mem_below (mem_below.2 (.inl rfl))
        (Node.label?_of_functionLabel? (e ▸ hl)))
      simpa [hl] using hne
    rw [ownedBy_of_head? ho, List.map_cons, List.map_flatMap, flatMap_parts, List.flatMap_congr outer,
      List.flatMap_eq_nil_iff.2 inner, List.append_nil, Node.own_eq]

/-- In a concatenation of lists, only the list of the one element with the key `d` is left if the
others give nothing. -/
private theorem flatMap_eq_of_key {α β γ : Type} {f : α → List β} {keys : α → List γ} {xs : List α}
    {x : α} {d : γ} (hn : (xs.flatMap keys).Nodup) (hx : x ∈ xs) (hd : d ∈ keys x)
    (hf : ∀ y ∈ xs, d ∉ keys y → f y = []) : xs.flatMap f = f x := by
  obtain ⟨pre, post, rfl⟩ := List.append_of_mem hx
  simp only [List.flatMap_append, List.flatMap_cons, List.nodup_append, List.mem_append] at hn
  obtain ⟨-, ⟨-, -, hpost⟩, hpre⟩ := hn
  have before : pre.flatMap f = [] := by
    refine List.flatMap_eq_nil_iff.2 fun y hy => hf y (by simp [hy]) fun hk => ?_
    exact hpre d (List.mem_flatMap.2 ⟨y, hy, hk⟩) d (.inl hd) rfl
  have after : post.flatMap f = [] := by
    refine List.flatMap_eq_nil_iff.2 fun y hy => hf y (by simp [hy]) fun hk => ?_
    exact hpost d hd d (List.mem_flatMap.2 ⟨y, hy, hk⟩) rfl
  simp [before, after]

/-- The nodes that a function owns are those in the scope of the statements of its body. -/
theorem Distinct.map_node_ownedBy {p q : Place} {d : Nat} (hp : p.Distinct) (hq : q ∈ p.below)
    (hd : q.node.functionLabel? = some d) :
    (p.ownedBy d).map node = q.node.innerParts.flatMap Node.own := by
  induction p using inductionOnParts with
  | step p ih =>
    have hn := hp.1
    rw [labels_eq] at hn
    have ho : p.owners.head? ≠ some d := fun h =>
      hp.2 (mem_labels_of_mem_below hq (Node.label?_of_functionLabel? hd)) (List.mem_of_mem_head? h)
    rw [ownedBy_of_head?_ne ho]
    rcases mem_below.1 hq with rfl | ⟨r, hr, hq⟩
    · -- the function itself: its label does not occur again below it
      rw [Node.label?_of_functionLabel? hd] at hn
      have hnot : ∀ r ∈ q.parts, d ∉ r.labels :=
        fun r hr h => (List.nodup_cons.1 hn).1 (List.mem_flatMap.2 ⟨r, hr, h⟩)
      have outer : ∀ m ∈ q.node.outerParts, (ownedBy d ⟨m, q.owners⟩).map node = [] := by
        intro m hm
        rw [ownedBy_eq_nil (hnot _ (outerPart_mem_parts hm)) ho, List.map_nil]
      have inner : ∀ m ∈ q.node.innerParts,
          (ownedBy d ⟨m, q.node.functionLabel?.toList ++ q.owners⟩).map node = m.own := by
        intro m hm
        exact map_node_ownedBy_of_head? (hnot _ (innerPart_mem_parts hm)) (by rw [hd]; rfl)
      rw [List.map_flatMap, flatMap_parts, List.flatMap_eq_nil_iff.2 outer, List.flatMap_congr inner,
        List.nil_append]
    · -- a function below a part: the other parts hold nothing with its label
      have hdr : d ∈ r.labels := mem_labels_of_mem_below hq (Node.label?_of_functionLabel? hd)
      have hds : d ∈ p.parts.flatMap labels := List.mem_flatMap.2 ⟨r, hr, hdr⟩
      rw [flatMap_eq_of_key hn.of_append_right hr hdr
        fun x hx h => ownedBy_eq_nil h
          fun e => hp.not_mem_owners hx hds (List.mem_of_mem_head? e)]
      exact ih r hr (hp.part hr) hq

/-- Grouping a list by keys that are all listed once keeps every element that has a key. -/
private theorem flatMap_filter_perm {α κ : Type} [DecidableEq κ] {key : α → Option κ} {ks : List κ}
    (hk : ks.Nodup) {xs : List α} (hx : ∀ x ∈ xs, ∀ k ∈ key x, k ∈ ks) :
    (ks.flatMap fun k => xs.filter fun x => key x = some k).Perm (xs.filter fun x => (key x).isSome) := by
  induction ks generalizing xs with
  | nil =>
    rw [List.filter_eq_nil_iff.2]
    · rfl
    · intro x h hs
      obtain ⟨k, hk⟩ := Option.isSome_iff_exists.1 hs
      exact List.not_mem_nil (hx x h k hk)
  | cons k ks ih =>
    obtain ⟨hnot, hks⟩ := List.nodup_cons.1 hk
    let rest := xs.filter fun x => !decide (key x = some k)
    have hrest : ∀ x ∈ rest, ∀ l ∈ key x, l ∈ ks := by
      intro x hx' l hl
      obtain ⟨hxs, hne⟩ := List.mem_filter.1 hx'
      rcases List.mem_cons.1 (hx x hxs l hl) with rfl | h
      · simp_all
      · exact h
    have same : ∀ l ∈ ks, (xs.filter fun x => key x = some l) = rest.filter fun x => key x = some l := by
      intro l hl
      rw [List.filter_filter]
      refine List.filter_congr fun x _ => ?_
      grind
    rw [List.flatMap_cons, List.flatMap_congr same]
    refine ((ih hks hrest).append_left _).trans ?_
    have split := List.filter_append_perm (fun x => decide (key x = some k))
      (xs.filter fun x => (key x).isSome)
    refine .trans (.of_eq ?_) split
    rw [List.filter_filter, List.filter_filter, List.filter_filter]
    congr 1 <;> refine List.filter_congr fun x _ => ?_
    · cases h : key x <;> simp
    · rw [Bool.and_comm]

/-! ## Functions, inner ones first -/

/-- The async functions from a place on, outer ones first. -/
def functions (p : Place) : List Place := p.below.filter fun q => q.node.functionLabel?.isSome

/-- The async functions from a place on, each after those in its body and those in front of it. -/
def exitOrder (p : Place) : List Place :=
  (p.parts.attach.flatMap fun q => q.1.exitOrder)
    ++ if p.node.functionLabel?.isSome then [p] else []
termination_by sizeOf p.node
decreasing_by exact sizeOf_node_lt_of_mem_parts q.2

theorem exitOrder_eq (p : Place) : p.exitOrder = p.parts.flatMap exitOrder
    ++ if p.node.functionLabel?.isSome then [p] else [] := by
  rw [exitOrder]
  simp

theorem functions_eq (p : Place) : p.functions =
    (if p.node.functionLabel?.isSome then [p] else []) ++ p.parts.flatMap functions := by
  rw [functions, below_eq, List.filter_cons, List.filter_flatMap]
  split <;> rfl

theorem exitOrder_perm (p : Place) : p.exitOrder.Perm p.functions := by
  induction p using inductionOnParts with
  | step p ih =>
    rw [exitOrder_eq, functions_eq]
    exact ((List.Perm.flatMap_left _ ih).append_right _).trans List.perm_append_comm

theorem mem_exitOrder {p q : Place} :
    q ∈ p.exitOrder ↔ q ∈ p.below ∧ q.node.functionLabel?.isSome := by
  rw [(exitOrder_perm p).mem_iff, functions, List.mem_filter]

/-- The labels of the async functions from a place on, outer ones first. -/
def functionLabels (p : Place) : List Nat := p.functions.filterMap fun q => q.node.functionLabel?

theorem mem_functionLabels {p : Place} {l : Nat} :
    l ∈ p.functionLabels ↔ ∃ q ∈ p.below, q.node.functionLabel? = some l := by
  simp only [functionLabels, functions, List.mem_filterMap, List.mem_filter]
  grind

private theorem filterMap_sublist {α β : Type} {f g : α → Option β} (h : ∀ x, f x = none ∨ f x = g x)
    (xs : List α) : (xs.filterMap f).Sublist (xs.filterMap g) := by
  induction xs with
  | nil => exact .slnil
  | cons x xs ih =>
    rw [List.filterMap_cons, List.filterMap_cons]
    cases hg : g x with
    | none =>
      have hf : f x = none := (h x).elim id fun e => e.trans hg
      simpa [hf] using ih
    | some b =>
      rcases h x with hf | hf
      · simpa [hf] using ih.cons b
      · simpa [hf, hg] using ih

theorem Distinct.functionLabels_nodup {p : Place} (hp : p.Distinct) : p.functionLabels.Nodup := by
  have hs : p.functionLabels.Sublist p.labels := by
    refine ((List.filter_sublist).filterMap _).trans (filterMap_sublist (fun q => ?_) p.below)
    cases h : q.node.functionLabel? with
    | none => exact .inl rfl
    | some l => exact .inr (Node.label?_of_functionLabel? h).symm
  exact hs.nodup hp.1

/-! ## Awaits that occur once -/

def awaitLabel? (p : Place) : Option Nat := p.node.await?.map Prod.fst

/-- No await occurs twice from the place on. -/
def AwaitsApart (p : Place) : Prop := (p.below.filterMap awaitLabel?).Nodup

theorem AwaitsApart.innerParts {p q : Place} (h : p.AwaitsApart) (hq : q ∈ p.below) :
    (((q.node.innerParts.flatMap Node.own).filterMap Node.await?).map Prod.fst).Nodup := by
  have sub : (q.node.innerParts.flatMap Node.own).Sublist (p.below.map node) :=
    (innerParts_own_sublist q).trans ((below_sublist hq).map node)
  rw [List.map_filterMap]
  refine (sub.filterMap fun n => n.await?.map Prod.fst).nodup ?_
  rwa [List.filterMap_map]

theorem Distinct.awaitsApart {p : Place} (hp : p.Distinct) : p.AwaitsApart := by
  have hs : (p.below.filterMap awaitLabel?).Sublist p.labels := by
    refine filterMap_sublist (fun q => ?_) p.below
    unfold awaitLabel?
    cases h : q.node.await? with
    | none => exact .inl rfl
    | some a => exact .inr (Node.label?_of_await? h).symm
  exact hs.nodup hp.1

/-! ## Owners and holders -/

/-- Each place of a tree that stands in some function's body is owned by exactly one function. -/
theorem Distinct.flatMap_ownedBy_perm {tree : Node} (h : tree.root.Distinct) :
    (tree.root.functionLabels.flatMap fun d => tree.root.ownedBy d).Perm
      (tree.root.below.filter fun q => q.owners ≠ []) := by
  have hk : ∀ q ∈ tree.root.below, ∀ l ∈ q.owners.head?, l ∈ tree.root.functionLabels := by
    intro q hq l hl
    obtain ⟨inner, ho, hf⟩ := owners_of_mem_below hq
    rw [Node.root, List.append_nil] at ho
    exact mem_functionLabels.2 (hf l (ho ▸ List.mem_of_mem_head? hl))
  refine (flatMap_filter_perm h.functionLabels_nodup hk).trans (.of_eq ?_)
  refine List.filter_congr fun q _ => ?_
  cases q.owners <;> simp

/-- `p` is a function whose body holds `q`. -/
def Holds (p q : Place) : Prop := ∃ l ∈ p.node.functionLabel?, l ∈ q.owners

theorem Distinct.exitOrder_pairwise {p : Place} (hp : p.Distinct) :
    p.exitOrder.Pairwise fun q r => ¬ q.Holds r := by
  induction p using inductionOnParts with
  | step p ih =>
    have hn := hp.1
    rw [labels_eq] at hn
    have label_mem : ∀ {x q : Place} {l : Nat}, q ∈ x.exitOrder → l ∈ q.node.functionLabel? →
        l ∈ x.labels := fun hq hl =>
      mem_labels_of_mem_below (mem_exitOrder.1 hq).1 (Node.label?_of_functionLabel? hl)
    rw [exitOrder_eq, List.pairwise_append, List.pairwise_flatMap]
    refine ⟨⟨fun q hq => ih q hq (hp.part hq), ?_⟩, by split <;> simp, ?_⟩
    · -- two parts have no label in common
      refine (List.nodup_flatMap.1 hn.of_append_right).2.imp_of_mem ?_
      rintro x y hx hy hxy q hq r hr ⟨l, hl, hlr⟩
      have hlx := label_mem hq hl
      rcases mem_labels_or_mem_owners (mem_exitOrder.1 hr).1 hlr with hly | hly
      · exact hxy hlx hly
      · exact hp.not_mem_owners hy (List.mem_flatMap.2 ⟨x, hx, hlx⟩) hly
    · -- what is below a function is not around it
      rintro q hq r hr ⟨l, hl, hlr⟩
      obtain ⟨x, hx, hqx⟩ := List.mem_flatMap.1 hq
      have hrp : r = p := by
        split at hr <;> simp_all
      exact hp.2 (labels_subset_of_mem_parts hx (label_mem hqx hl)) (hrp ▸ hlr)

end Place

end AwaitLint
