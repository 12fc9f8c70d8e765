import AwaitLint.Proofs.Numbering
import AwaitLint.Proofs.Walk

/-! # Which function an await belongs to

A walk over a tree never fails, and leaves each async function once, after those in its body. The scope
of a function holds the awaits that the function owns, in the order of the walk, and is marked as
parallel exactly if the function owns a call of a combinator.
-/

namespace AwaitLint

/-- The await that an operation records. -/
def Operation.await (o : Operation) : Nat × Span × Node := (o.label, o.span, o.value)

/-- The scope `e` is what a walk over `tree` is told about the function at `p`. -/
structure Place.Exited (combinators : List String) (tree : Node) (p : Place) (e : Scope × Bool) :
    Prop where
  label : p.node.functionLabel? = some e.1.label
  /-- The function is outermost if no function's body holds it. -/
  outermost : e.2 = true ↔ p.owners = []
  /-- The recorded awaits are those that the function owns, in the order of a walk. -/
  awaits : e.1.operations.map Operation.await =
    (tree.root.ownedBy e.1.label).filterMap fun q => q.node.await?
  /-- The scope is parallel if the function owns a call of a combinator. -/
  parallel : e.1.parallel = true ↔
    ∃ q ∈ tree.root.ownedBy e.1.label, isCombinatorCall combinators q.node = true

namespace Scope

@[simp] theorem operation_await (s : Scope) (a : Nat × Span × Node) :
    (s.operation a.1 a.2.1 a.2.2).await = a := by
  unfold operation
  split <;> rfl

theorem map_await_absorb_opened (cs : List String) (label : Nat) (name : String) (body ns : List Node) :
    ((opened label name body).absorb cs ns).operations.map Operation.await =
      ns.filterMap Node.await? := by
  simp [absorb, opened, Function.comp_def]

end Scope

theorem Place.exited_of_mem_exitOrder {tree : Node} (hd : tree.root.Distinct) (cs : List String)
    {p : Place} (hp : p ∈ tree.root.exitOrder) : ∃ e, p.exit? cs = some e ∧ p.Exited cs tree e := by
  obtain ⟨hb, hf⟩ := mem_exitOrder.1 hp
  obtain ⟨n, owners⟩ := p
  cases n with
  | asyncDef label span name decorators parameters returns body =>
    have own : (tree.root.ownedBy label).map Place.node = body.flatMap Node.own :=
      hd.map_node_ownedBy hb rfl
    refine ⟨_, rfl, rfl, List.isEmpty_iff, ?_, ?_⟩
    · rw [Scope.map_await_absorb_opened, ← own, List.filterMap_map]
      rfl
    · simp only [Scope.absorb, Scope.opened, Bool.false_or, ← own, List.any_map, List.any_eq_true]
      rfl
  | _ => simp [Node.functionLabel?] at hf

theorem forall₂_filterMap {α β : Type} {f : α → Option β} {R : α → β → Prop} {xs : List α}
    (h : ∀ x ∈ xs, ∃ y, f x = some y ∧ R x y) : List.Forall₂ R xs (xs.filterMap f) := by
  induction xs with
  | nil => exact .nil
  | cons x xs ih =>
    obtain ⟨y, hy, hr⟩ := h x List.mem_cons_self
    rw [List.filterMap_cons_some hy]
    exact .cons hr (ih fun z hz => h z (List.mem_cons_of_mem _ hz))

namespace Tracker

/-- The state of a finished walk, without any condition on labels. -/
theorem run_eq {w : Watch} (hw : w.Passive) (tree : Node) :
    ({} : Tracker).run w tree = (({} : Tracker).after w tree.own tree.root.exitOrder, none) := by
  have hv : visit w tree {} = ({} : Tracker).after w tree.own tree.root.exitOrder :=
    visit_eq_after hw tree {}
  simp [run, hv, after]

private theorem flatMap_awaits_eq {tree : Node} {cs : List String} {order : List Place}
    {exits : List (Scope × Bool)} (h : List.Forall₂ (Place.Exited cs tree) order exits) :
    (exits.flatMap fun e => e.1.operations.map Operation.await) =
      ((order.filterMap fun q => q.node.functionLabel?).flatMap fun d => tree.root.ownedBy d).filterMap
        fun q => q.node.await? := by
  induction h with
  | nil => rfl
  | cons hx _ ih => simp only [List.flatMap_cons, ih, hx.awaits, List.filterMap_cons, hx.label,
      List.filterMap_append]

/-- Over all scopes, the awaits that stand in some function's body are recorded once. -/
theorem flatMap_awaits_perm {tree : Node} (hd : tree.root.Distinct) {cs : List String}
    {order : List Place} {exits : List (Scope × Bool)} (ho : order.Perm tree.root.functions)
    (h : List.Forall₂ (Place.Exited cs tree) order exits) :
    (exits.flatMap fun e => e.1.operations.map Operation.await).Perm
      ((tree.root.below.filter fun q => q.owners ≠ []).filterMap fun q => q.node.await?) := by
  rw [flatMap_awaits_eq h]
  exact (((ho.filterMap _).flatMap_right _).trans hd.flatMap_ownedBy_perm).filterMap _

/-- A walk over a tree never fails and closes all scopes. It leaves the async functions in an order in
which none comes before one that its body holds, each once and with what `Place.Exited` says; all
policies are asked about each of them once. The awaits that stand in some function's body are each
recorded once, the other ones not at all. -/
theorem run_attributes_awaits (w : Watch) (hw : w.Passive) (tree : Node) (hd : tree.root.Distinct) :
    ∃ t, ({} : Tracker).run w tree = (t, none) ∧ t.stack = [] ∧
      (∃ order : List Place, order.Perm tree.root.functions ∧
        order.Pairwise (fun p q => ¬ p.Holds q) ∧
        List.Forall₂ (Place.Exited w.combinators tree) order t.exits) ∧
      t.diagnostics = t.exits.flatMap w.reports ∧
      (t.exits.flatMap fun e => e.1.operations.map Operation.await).Perm
        ((tree.root.below.filter fun q => q.owners ≠ []).filterMap fun q => q.node.await?) := by
  have exits : List.Forall₂ (Place.Exited w.combinators tree) tree.root.exitOrder
      (tree.root.exitOrder.filterMap (Place.exit? w.combinators)) :=
    forall₂_filterMap fun p hp => Place.exited_of_mem_exitOrder hd w.combinators hp
  refine ⟨_, run_eq hw tree, rfl, ⟨tree.root.exitOrder, Place.exitOrder_perm _,
    hd.exitOrder_pairwise, exits⟩, rfl, ?_⟩
  exact flatMap_awaits_perm hd (Place.exitOrder_perm _) exits

theorem run_attributes_awaits_nestedSample :
    let w : Watch := ⟨[.waterfall, .runs], defaultCombinators⟩
    let tree := Node.nestedSample.labelled
    w.Passive ∧ tree.root.Distinct ∧
    ∃ t, ({} : Tracker).run w tree = (t, none) ∧ t.stack = [] ∧
      (∃ order : List Place, order.Perm tree.root.functions ∧
        order.Pairwise (fun p q => ¬ p.Holds q) ∧
        List.Forall₂ (Place.Exited w.combinators tree) order t.exits) ∧
      t.diagnostics = t.exits.flatMap w.reports ∧
      (t.exits.flatMap fun e => e.1.operations.map Operation.await).Perm
        ((tree.root.below.filter fun q => q.owners ≠ []).filterMap fun q => q.node.await?) := by
  intro w tree
  have hw : w.Passive := Watch.passive_both
  have hd : tree.root.Distinct := Node.labelled_distinct Node.nestedSample
  exact ⟨hw, hd, run_attributes_awaits w hw tree hd⟩

end Tracker

end AwaitLint
