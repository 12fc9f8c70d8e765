import AwaitLint.Proofs.Attribution
import AwaitLint.Summary

/-! # The summary of a tree and the walk over it

The summary counts awaits and nesting on its own, by a recursion over the tree. It describes the same
functions as the scopes that a walk leaves: the counts are the numbers of recorded awaits, and a function
is nested exactly if it is not outermost. Async functions are statements, so none stands in the
decorators, the parameters or the return type of another one.
-/

namespace AwaitLint

namespace Node

theorem ownAwaitsAll_append (xs ys : List Node) :
    ownAwaitsAll (xs ++ ys) = ownAwaitsAll xs + ownAwaitsAll ys := by
  induction xs with
  | nil => simp [ownAwaitsAll]
  | cons x xs ih => simp [ownAwaitsAll, ih, Nat.add_assoc]

private theorem ownAwaits_eq (n : Node) :
    n.ownAwaits = n.await?.toList.length + ownAwaitsAll n.outerParts := by
  cases n <;> simp [ownAwaits, ownAwaitsAll, ownAwaitsAll_append, outerParts, children, await?] <;> omega

private theorem ownAwaitsAll_eq_length {xs : List Node}
    (h : ∀ x ∈ xs, x.ownAwaits = (x.own.filterMap await?).length) :
    ownAwaitsAll xs = ((xs.flatMap own).filterMap await?).length := by
  induction xs with
  | nil => rfl
  | cons x xs ih =>
    rw [ownAwaitsAll, h x List.mem_cons_self, ih fun y hy => h y (List.mem_cons_of_mem _ hy)]
    simp

/-- The count of a tree is the number of awaits in its own scope. -/
theorem ownAwaits_eq_length (n : Node) : n.ownAwaits = (n.own.filterMap await?).length := by
  induction n using inductionOnParts with
  | step n outer _ =>
    rw [ownAwaits_eq, ownAwaitsAll_eq_length outer, own_eq]
    cases h : n.await? <;> simp [h, Nat.add_comm]

theorem functionsAll_eq (nested : Bool) (xs : List Node) :
    functionsAll nested xs = xs.flatMap (functions nested) := by
  induction xs with
  | nil => rfl
  | cons x xs ih => rw [functionsAll, ih, List.flatMap_cons]

theorem functions_of_not_function {n : Node} (h : n.functionLabel? = none) (nested : Bool) :
    n.functions nested = n.outerParts.flatMap (functions nested) := by
  cases n <;> simp_all [functions, functionsAll_eq, outerParts, children, functionLabel?]

/-- The name and the line of an async function. -/
def header? : Node → Option (String × Int)
  | asyncDef _ span id .. => some (id, span.line)
  | _ => none

end Node

namespace Place

/-- What the summary says about the function at a place, if there is one. -/
def summary? (p : Place) : Option FunctionSummary :=
  match p.node with
  | .asyncDef _ span name _ _ _ body =>
    some ⟨name, span.line, span.lastLine, Node.ownAwaitsAll body, !p.owners.isEmpty⟩
  | _ => none

/-- No function stands in front of the body of another one: functions are statements, and decorators,
parameters and return types hold expressions only. -/
def PlainHeaders (p : Place) : Prop :=
  ∀ f ∈ p.functions, ∀ m ∈ f.node.outerParts, functions ⟨m, f.owners⟩ = []

instance (p : Place) : Decidable p.PlainHeaders :=
  inferInstanceAs (Decidable (∀ f ∈ p.functions, ∀ m ∈ f.node.outerParts, functions ⟨m, f.owners⟩ = []))

theorem PlainHeaders.part {p q : Place} (h : p.PlainHeaders) (hq : q ∈ p.parts) : q.PlainHeaders := by
  intro f hf
  refine h f ?_
  rw [functions_eq]
  exact List.mem_append_right _ (List.mem_flatMap.2 ⟨q, hq, hf⟩)

theorem functions_node_eq_nil {p : Place} (h : p.functions = []) (nested : Bool) :
    p.node.functions nested = [] := by
  induction p using inductionOnParts with
  | step p ih =>
    rw [functions_eq, List.append_eq_nil_iff] at h
    have hf : p.node.functionLabel? = none := by
      cases hl : p.node.functionLabel? <;> simp_all
    rw [Node.functions_of_not_function hf, List.flatMap_eq_nil_iff]
    intro m hm
    have hp := outerPart_mem_parts hm
    exact ih _ hp (List.flatMap_eq_nil_iff.1 h.2 _ hp)

/-- The functions of a tree in the order of a walk, as the summary describes them. -/
theorem functions_node_eq {p : Place} (h : p.PlainHeaders) :
    p.node.functions (!p.owners.isEmpty) = p.functions.filterMap summary? := by
  induction p using inductionOnParts with
  | step p ih =>
    rw [functions_eq, List.filterMap_append, List.filterMap_flatMap, flatMap_parts]
    have outer : ∀ m ∈ p.node.outerParts, (functions ⟨m, p.owners⟩).filterMap summary? =
        m.functions (!p.owners.isEmpty) :=
      fun m hm => (ih _ (outerPart_mem_parts hm) (h.part (outerPart_mem_parts hm))).symm
    have inner : ∀ m ∈ p.node.innerParts,
        (functions ⟨m, p.node.functionLabel?.toList ++ p.owners⟩).filterMap summary? =
          m.functions (!(p.node.functionLabel?.toList ++ p.owners).isEmpty) :=
      fun m hm => (ih _ (innerPart_mem_parts hm) (h.part (innerPart_mem_parts hm))).symm
    rw [List.flatMap_congr outer, List.flatMap_congr inner]
    cases hf : p.node.functionLabel? with
    | none =>
      have hi : p.node.innerParts = [] := by
        cases hn : p.node <;> simp_all [Node.innerParts, Node.functionLabel?]
      simp [Node.functions_of_not_function hf, hi]
    | some l =>
      have self : p ∈ p.functions := by
        rw [functions_eq, hf]
        exact List.mem_append_left _ List.mem_cons_self
      have plain : ∀ m ∈ p.node.outerParts, ∀ nested, m.functions nested = [] :=
        fun m hm => functions_node_eq_nil (h p self m hm)
      obtain ⟨n, owners⟩ := p
      cases n with
      | asyncDef label span name decorators parameters returns body =>
        simp only [Node.outerParts, List.forall_mem_append, List.forall_mem_cons] at plain
        obtain ⟨hd, hp, hr, -⟩ := plain
        have hds : ∀ nested, decorators.flatMap (Node.functions nested) = [] :=
          fun nested => List.flatMap_eq_nil_iff.2 fun m hm => hd m hm nested
        simp [Node.functions, Node.functionsAll_eq, Node.outerParts, Node.innerParts, summary?, hds, hp, hr]
      | _ => simp [Node.functionLabel?] at hf

/-- A summary and a scope that is left describe the same function at `p`. -/
structure Listed (p : Place) (f : FunctionSummary) (e : Scope × Bool) : Prop where
  label : p.node.functionLabel? = some e.1.label
  header : p.node.header? = some (f.name, f.line)
  name : e.1.name = f.name
  awaits : f.awaits = e.1.operations.length
  nested : f.nested = !e.2

theorem listed_of_mem_functions (cs : List String) {p q : Place} (h : q ∈ p.functions) :
    ∃ f e, q.summary? = some f ∧ q.exit? cs = some e ∧ q.Listed f e := by
  have hf := (List.mem_filter.1 h).2
  obtain ⟨n, owners⟩ := q
  cases n with
  | asyncDef label span name decorators parameters returns body =>
    refine ⟨_, _, rfl, rfl, rfl, rfl, rfl, ?_, rfl⟩
    have awaits := Scope.map_await_absorb_opened cs label name body (body.flatMap Node.own)
    rw [Node.ownAwaitsAll_eq_length fun m _ => m.ownAwaits_eq_length, ← awaits, List.length_map]
  | _ => simp [Node.functionLabel?] at hf

/-- The summary and the scope of the function at a place. -/
def row? (cs : List String) (p : Place) : Option (Place × FunctionSummary × (Scope × Bool)) :=
  p.summary?.bind fun f => (p.exit? cs).map fun e => (p, f, e)

end Place

private theorem map_filterMap_eq {α β γ : Type} {f : α → Option β} {g : β → γ} {h : α → Option γ}
    {xs : List α} (hx : ∀ x ∈ xs, (f x).map g = h x) : (xs.filterMap f).map g = xs.filterMap h := by
  rw [List.map_filterMap]
  exact List.filterMap_congr hx

namespace Node

theorem summary_pairwise (tree : Node) : tree.summary.Pairwise fun f g => f.line ≤ g.line := by
  refine (List.pairwise_mergeSort ?_ ?_ _).imp of_decide_eq_true
  · intro f g h hfg hgh
    exact decide_eq_true (Int.le_trans (of_decide_eq_true hfg) (of_decide_eq_true hgh))
  · intro f g
    simpa using Int.le_total f.line g.line

private theorem summary_of_not_function {tree : Node} (h : tree.functionLabel? = none) :
    tree.summary = (tree.functions false).mergeSort fun f g => decide (f.line ≤ g.line) := by
  cases tree with
  | asyncDef => simp [functionLabel?] at h
  | _ => rfl

/-- Sorting by line is stable: the functions of one line stay in their order. -/
private theorem filter_mergeSort_line (fs : List FunctionSummary) (line : Int) :
    ((fs.mergeSort fun f g => decide (f.line ≤ g.line)).filter fun f => f.line = line) =
      fs.filter fun f => f.line = line := by
  have same : (fs.filter fun f => f.line = line).Pairwise fun f g => decide (f.line ≤ g.line) = true := by
    refine List.pairwise_of_forall_mem_list fun f hf g hg => ?_
    have hf' : f.line = line := by simpa using (List.mem_filter.1 hf).2
    have hg' : g.line = line := by simpa using (List.mem_filter.1 hg).2
    simp [hf', hg']
  have sub := List.sublist_mergeSort (by grind) (by grind) same List.filter_sublist
  have len := ((List.mergeSort_perm fs fun f g => decide (f.line ≤ g.line)).filter
    fun f => decide (f.line = line)).length_eq
  have sub' := sub.filter fun f => decide (f.line = line)
  rw [List.filter_filter] at sub'
  simp only [Bool.and_self] at sub'
  exact (sub'.eq_of_length len.symm).symm

/-- The rows of the summary of a tree and the scopes that a walk leaves belong together one to one, so
that each pair describes the same function. The summary goes by lines, and the functions of one line stay
in the order in which the tree lists them, outer ones first. -/
theorem summary_agrees_with_walk (w : Watch) (hw : w.Passive) (tree : Node)
    (hr : tree.functionLabel? = none) (hp : tree.root.PlainHeaders) :
    ∃ t, ({} : Tracker).run w tree = (t, none) ∧
      ∃ rows : List (Place × FunctionSummary × (Scope × Bool)),
        rows.map (·.1) = tree.root.functions ∧
        (rows.map (·.2.1)).Perm tree.summary ∧
        (rows.map (·.2.2)).Perm t.exits ∧
        (∀ row ∈ rows, row.1.Listed row.2.1 row.2.2) ∧
        tree.summary.Pairwise (fun f g => f.line ≤ g.line) ∧
        ∀ line, (tree.summary.filter fun f => f.line = line) =
          (rows.map (·.2.1)).filter fun f => f.line = line := by
  have listed := fun p (h : p ∈ tree.root.functions) => Place.listed_of_mem_functions w.combinators h
  have unsorted : tree.functions false = tree.root.functions.filterMap Place.summary? :=
    Place.functions_node_eq hp
  let rows := tree.root.functions.filterMap (Place.row? w.combinators)
  have places : rows.map (·.1) = tree.root.functions := by
    refine (map_filterMap_eq fun p h => ?_).trans List.filterMap_some
    obtain ⟨f, e, hf, he, -⟩ := listed p h
    simp [Place.row?, hf, he]
  have entries : rows.map (·.2.1) = tree.functions false := by
    refine (map_filterMap_eq fun p h => ?_).trans unsorted.symm
    obtain ⟨f, e, hf, he, -⟩ := listed p h
    simp [Place.row?, hf, he]
  have exits : rows.map (·.2.2) = tree.root.functions.filterMap (Place.exit? w.combinators) := by
    refine map_filterMap_eq fun p h => ?_
    obtain ⟨f, e, hf, he, -⟩ := listed p h
    simp [Place.row?, hf, he]
  refine ⟨_, Tracker.run_eq hw tree, rows, places, ?_, ?_, ?_, summary_pairwise tree, ?_⟩
  · rw [entries, summary_of_not_function hr]
    exact (List.mergeSort_perm _ _).symm
  · rw [exits]
    exact (tree.root.exitOrder_perm.filterMap _).symm
  · intro row hrow
    obtain ⟨p, hmem, hrow⟩ := List.mem_filterMap.1 hrow
    obtain ⟨f, e, hf, he, hl⟩ := listed p hmem
    obtain rfl : (p, f, e) = row := by simpa [Place.row?, hf, he] using hrow
    exact hl
  · intro line
    rw [entries, summary_of_not_function hr, filter_mergeSort_line]

theorem summary_agrees_with_walk_nestedSample :
    let w : Watch := ⟨[.waterfall, .runs], defaultCombinators⟩
    let tree := nestedSample
    w.Passive ∧ tree.functionLabel? = none ∧ tree.root.PlainHeaders ∧
    ∃ t, ({} : Tracker).run w tree = (t, none) ∧
      ∃ rows : List (Place × FunctionSummary × (Scope × Bool)),
        rows.map (·.1) = tree.root.functions ∧
        (rows.map (·.2.1)).Perm tree.summary ∧
        (rows.map (·.2.2)).Perm t.exits ∧
        (∀ row ∈ rows, row.1.Listed row.2.1 row.2.2) ∧
        tree.summary.Pairwise (fun f g => f.line ≤ g.line) ∧
        ∀ line, (tree.summary.filter fun f => f.line = line) =
          (rows.map (·.2.1)).filter fun f => f.line = line := by
  intro w tree
  have hw : w.Passive := Watch.passive_both
  have hp : tree.root.PlainHeaders := by decide +kernel
  exact ⟨hw, rfl, hp, summary_agrees_with_walk w hw tree rfl hp⟩

end Node

end AwaitLint
