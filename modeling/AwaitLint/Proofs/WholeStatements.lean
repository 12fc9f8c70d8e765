import AwaitLint.Proofs.TopLevelSteps

/-! # Every statement that is one whole await, and no other await

Awaits are told apart by their labels alone, so awaits that look the same at the same place of a text are
different ones. If no await occurs twice, a walk lists for each function the statements of its body that
are one whole await, each once and in their order, and an await that stands anywhere else in the tree is
not listed.
-/

namespace AwaitLint

/-- The watch of policies that do no more than report. -/
def Watch.reporting (reports : List Report) (combinators : List String) : Watch :=
  ⟨reports.map .ofReport, combinators⟩

theorem Watch.passive_reporting (reports : List Report) (cs : List String) :
    (reporting reports cs).Passive := by
  simp [Passive, reporting, Policy.passive_ofReport]

namespace Place

/-! ## The parts of all places -/

/-- Every place but the first is a part of another place. -/
theorem below_perm (p : Place) : p.below.Perm (p :: p.below.flatMap parts) := by
  induction p using inductionOnParts with
  | step p ih =>
    have later : (p.parts.flatMap below).Perm
        (p.parts ++ p.parts.flatMap fun q => q.below.flatMap parts) := by
      refine (List.Perm.flatMap_left _ ih).trans ?_
      simpa using (List.flatMap_append_perm p.parts (fun q => [q]) fun q => q.below.flatMap parts).symm
    have all : p.below.flatMap parts = p.parts ++ (p.parts.flatMap below).flatMap parts := by
      rw [below_eq, List.flatMap_cons]
    rw [all, List.flatMap_assoc, below_eq]
    exact later.cons p

/-- If the keys of a list differ, an element is known by its key. -/
private theorem eq_of_key_eq {α κ : Type} {key : α → Option κ} {xs : List α} {x y : α} {k : κ}
    (h : (xs.filterMap key).Nodup) (hx : x ∈ xs) (hy : y ∈ xs) (hkx : key x = some k)
    (hky : key y = some k) : x = y := by
  induction xs with
  | nil => exact absurd hx List.not_mem_nil
  | cons z zs ih =>
    have mem : ∀ w ∈ zs, key w = some k → k ∈ zs.filterMap key :=
      fun w hw hkw => List.mem_filterMap.2 ⟨w, hw, hkw⟩
    rcases List.mem_cons.1 hx with rfl | hxs <;> rcases List.mem_cons.1 hy with rfl | hys
    · rfl
    · rw [List.filterMap_cons_some hkx] at h
      exact absurd (mem y hys hky) (List.nodup_cons.1 h).1
    · rw [List.filterMap_cons_some hky] at h
      exact absurd (mem x hxs hkx) (List.nodup_cons.1 h).1
    · exact ih (((List.sublist_cons_self z zs).filterMap key).nodup h) hxs hys

/-- An await is a part of one place only. -/
theorem AwaitsApart.part_unique {p q q' r r' : Place} {l : Nat} (h : p.AwaitsApart) (hr : r ∈ p.below)
    (hr' : r' ∈ p.below) (hq : q ∈ r.parts) (hq' : q' ∈ r'.parts) (hl : q.awaitLabel? = some l)
    (hl' : q'.awaitLabel? = some l) : r = r' ∧ q = q' := by
  let pairs := p.below.flatMap fun r => r.parts.map fun q => (r, q)
  have mem_pairs : ∀ {r q : Place}, r ∈ p.below → q ∈ r.parts → (r, q) ∈ pairs := fun hr hq =>
    List.mem_flatMap.2 ⟨_, hr, List.mem_map_of_mem hq⟩
  have seconds : pairs.map Prod.snd = p.below.flatMap parts := by
    simp [pairs, List.map_flatMap, Function.comp_def]
  have labels : (pairs.filterMap fun e => e.2.awaitLabel?).Nodup := by
    have nodup := ((below_perm p).filterMap awaitLabel?).nodup_iff.1 h
    have sub := (List.sublist_cons_self p (p.below.flatMap parts)).filterMap awaitLabel?
    have nodup' := sub.nodup nodup
    rwa [← seconds, List.filterMap_map] at nodup'
  exact Prod.ext_iff.1 (eq_of_key_eq labels (mem_pairs hr hq) (mem_pairs hr' hq') hl hl')

/-- The statements of the body of the function at a place. -/
def statements (p : Place) : List Place :=
  p.node.innerParts.map fun m => ⟨m, p.node.functionLabel?.toList ++ p.owners⟩

theorem statements_subset_parts (p : Place) : p.statements ⊆ p.parts := List.subset_append_right _ _

end Place

/-! ## What is listed -/

namespace Node

/-- The value of an assignment, annotated or not, or of a bare expression. -/
def wholeValue? : Node → Option Node
  | assign _ _ value => some value
  | annAssign _ _ _ value => some value
  | exprStmt _ value => some value
  | _ => none

theorem mem_outerParts_of_wholeValue? {n v : Node} (h : n.wholeValue? = some v) : v ∈ n.outerParts := by
  unfold wholeValue? at h
  split at h <;> simp only [Option.some.injEq, reduceCtorEq] at h <;> subst h <;>
    simp [outerParts, children]

end Node

/-- The operation is the one for a statement: it has the span of the statement, the await that is the
statement's value, and the names that the statement writes. -/
structure Operation.Records (statement : Node) (o : Operation) : Prop where
  binding : ∃ span, o.statement = some span ∧
    statement.awaitedBinding? = some (span, ⟨o.label, o.span, o.bound⟩)
  value : statement.wholeValue? = some (.await o.label o.span o.value)

theorem Operation.records_of_step? {n : Node} {o : Operation} (h : n.step? = some o) : o.Records n := by
  unfold Node.step? at h
  split at h <;> simp only [Option.some.injEq, reduceCtorEq] at h <;> subst h <;>
    exact ⟨⟨_, rfl, rfl⟩, rfl⟩

theorem Node.isSome_step? (n : Node) : n.step?.isSome = n.awaitedBinding?.isSome := by
  unfold Node.awaitedBinding?
  split <;> simp_all [Node.step?]

/-- The steps of a body are the operations for those statements that are one whole await. -/
theorem Scope.steps_record (body : List Node) :
    List.Forall₂ (fun n o => Operation.Records n o) (body.filter fun n => n.awaitedBinding?.isSome)
      (body.filterMap Node.step?) := by
  have same : (body.filter fun n => n.awaitedBinding?.isSome).filterMap Node.step? =
      body.filterMap Node.step? := by
    rw [List.filterMap_filter]
    refine List.filterMap_congr fun n _ => ?_
    rw [← n.isSome_step?]
    cases n.step? <;> rfl
  rw [← same]
  refine forall₂_filterMap fun n hn => ?_
  have hsome := (List.mem_filter.1 hn).2
  rw [← n.isSome_step?] at hsome
  obtain ⟨o, ho⟩ := Option.isSome_iff_exists.1 hsome
  exact ⟨o, ho, Operation.records_of_step? ho⟩

namespace Place

/-- The operations list the statements of the function at `p` that are one whole await. -/
structure Lists (tree : Node) (p : Place) (operations : List Operation) : Prop where
  /-- There is one operation for each such statement, in the order of the body. -/
  statements : List.Forall₂ (fun n o => Operation.Records n o)
    (p.node.innerParts.filter fun n => n.awaitedBinding?.isSome) operations
  /-- An await of the tree that is listed is the whole value of a statement of the body. -/
  only : ∀ r ∈ tree.root.below, ∀ q ∈ r.parts, ∀ l ∈ q.awaitLabel?,
    l ∈ operations.map Operation.label → r ∈ p.statements ∧ r.node.wholeValue? = some q.node

theorem AwaitsApart.lists_steps {tree : Node} (h : tree.root.AwaitsApart) {p : Place}
    (hp : p ∈ tree.root.below) : p.Lists tree p.node.steps := by
  refine ⟨Scope.steps_record p.node.innerParts, fun r hr q hq l hl hmem => ?_⟩
  obtain ⟨o, ho, rfl⟩ := List.mem_map.1 hmem
  obtain ⟨n, hn, hstep⟩ := List.mem_filterMap.1 ho
  have value := (Operation.records_of_step? hstep).value
  let place : Place := ⟨n, p.node.functionLabel?.toList ++ p.owners⟩
  have hplace : place ∈ p.statements := List.mem_map_of_mem hn
  have hbelow : place ∈ tree.root.below := (below_sublist hp).subset
    (mem_below.2 (.inr ⟨place, p.statements_subset_parts hplace, mem_below.2 (.inl rfl)⟩))
  have hvalue : ⟨.await o.label o.span o.value, place.owners⟩ ∈ place.parts :=
    outerPart_mem_parts (Node.mem_outerParts_of_wholeValue? value)
  obtain ⟨rfl, rfl⟩ := h.part_unique hr hbelow hq hvalue hl rfl
  exact ⟨hplace, value⟩

end Place

namespace Tracker

/-- A walk over a tree in which no await occurs twice leaves every function once. What it is then told are
the statements of the body that are one whole await, and no other await. -/
theorem run_lists_whole_statements (reports : List Report) (cs : List String) (tree : Node)
    (h : tree.root.AwaitsApart) :
    ∃ t, ({} : Tracker).run (.reporting reports cs) tree = (t, none) ∧
      ∃ order : List Place, order.Perm tree.root.functions ∧
        List.Forall₂ (fun p e => p.node.functionLabel? = some e.1.label ∧ p.Lists tree e.1.topLevel)
          order t.exits := by
  refine ⟨_, run_eq (Watch.passive_reporting reports cs) tree, tree.root.exitOrder,
    Place.exitOrder_perm _, forall₂_filterMap fun p hp => ?_⟩
  obtain ⟨hb, hf⟩ := Place.mem_exitOrder.1 hp
  obtain ⟨l, hl⟩ := Option.isSome_iff_exists.1 hf
  obtain ⟨e, he, hlabel⟩ := Option.map_eq_some_iff.1 ((Place.label_exit? cs p).trans hl)
  refine ⟨e, he, hl.trans (congrArg some hlabel.symm), ?_⟩
  rw [h.topLevel_eq_steps hb he]
  exact h.lists_steps hb

/-- Awaits with one span and one call: in a target and as the value beside it, as an argument, in a block,
in a function inside the function, and as a value with a type. -/
def lookalikes : Node :=
  let here : Span := ⟨1, 0, none, none⟩
  let await (args : List Node) : Node := .await 0 here (.call (.name "g") args [])
  .compound [.asyncDef 0 here "f" [] .absent .absent
    [.assign here [.subscript (.name "d") (await [])] (await []), .exprStmt here (await [await []]),
      .compound [.exprStmt here (await [])],
      .asyncDef 0 here "f" [] .absent .absent [.exprStmt here (await [])],
      .annAssign here (.name "x") (.name "T") (await [])]]

theorem run_lists_whole_statements_lookalikes :
    let tree := lookalikes.labelled
    tree.root.AwaitsApart ∧
    ∃ t, ({} : Tracker).run (.reporting [waterfallReport, runsReport] defaultCombinators) tree =
        (t, none) ∧
      ∃ order : List Place, order.Perm tree.root.functions ∧
        List.Forall₂ (fun p e => p.node.functionLabel? = some e.1.label ∧ p.Lists tree e.1.topLevel)
          order t.exits := by
  intro tree
  have h : tree.root.AwaitsApart := (Node.labelled_distinct lookalikes).awaitsApart
  exact ⟨h, run_lists_whole_statements [waterfallReport, runsReport] defaultCombinators tree h⟩

end Tracker

end AwaitLint
