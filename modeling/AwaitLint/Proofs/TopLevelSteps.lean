import AwaitLint.Proofs.Attribution

/-! # The awaits that are whole statements

A function's body makes a step for each of its statements that is one whole await. When the function is
left, the recorded awaits that know their statement are these steps, in the order of the statements.
-/

namespace AwaitLint

namespace Node

/-- The step that a statement makes: an assignment, annotated or not, whose whole value is an await, or a
bare await. -/
def step? : Node → Option Operation
  | assign span targets (await label s value) =>
      some ⟨label, s, value, some span, writesAll targets⟩
  | annAssign span target _ (await label s value) =>
      some ⟨label, s, value, some span, target.writes⟩
  | exprStmt span (await label s value) => some ⟨label, s, value, some span, []⟩
  | _ => none

/-- The steps of a function's body. -/
def steps (n : Node) : List Operation := n.innerParts.filterMap step?

theorem step?_eq_some {n : Node} {o : Operation} (h : n.step? = some o) :
    ∃ span, o.statement = some span ∧ await o.label o.span o.value ∈ n.outerParts := by
  unfold step? at h
  split at h <;> simp only [Option.some.injEq, reduceCtorEq] at h <;> subst h <;>
    simp [outerParts, children]

/-- The await of a step stands in the scope of its statement. -/
theorem step?_await_mem {n : Node} {o : Operation} (h : n.step? = some o) :
    o.await ∈ n.own.filterMap await? := by
  obtain ⟨span, -, ho⟩ := step?_eq_some h
  refine List.mem_filterMap.2 ⟨.await o.label o.span o.value, ?_, rfl⟩
  rw [own_eq]
  refine List.mem_cons_of_mem _ (List.mem_flatMap.2 ⟨_, ho, ?_⟩)
  rw [own_eq]
  exact List.mem_cons_self

end Node

/-- What a scope knows about a step from the start. -/
def Operation.qualified (o : Operation) : Qualified := ⟨o.label, o.statement.getD default, o.bound⟩

namespace Scope

theorem qualified_eq_map (body : List Node) :
    qualified body = (body.filterMap Node.step?).map Operation.qualified := by
  rw [List.map_filterMap]
  refine List.filterMap_congr fun n _ => ?_
  unfold Node.awaitedBinding?
  split <;> simp_all [Node.step?, Operation.qualified]

theorem steps_await_sublist (body : List Node) :
    ((body.filterMap Node.step?).map Operation.await).Sublist
      ((body.flatMap Node.own).filterMap Node.await?) := by
  induction body with
  | nil => exact .slnil
  | cons n body ih =>
    rw [List.flatMap_cons, List.filterMap_append, List.filterMap_cons]
    cases h : n.step? with
    | none => exact ih.trans (List.sublist_append_right _ _)
    | some o => exact (List.singleton_sublist.2 (Node.step?_await_mem h)).append ih

end Scope

/-- Looking up a list by the keys of a longer one that it is a part of gives the list back. -/
private theorem filterMap_find?_reverse {α β κ : Type} [DecidableEq κ] {f : α → β} {key : β → κ}
    {xs : List α} {ys : List β} (hs : (xs.map f).Sublist ys) (hn : (ys.map key).Nodup) :
    (ys.filterMap fun y => xs.reverse.find? fun x => key (f x) == key y) = xs := by
  induction ys generalizing xs with
  | nil => simpa using hs
  | cons y ys ih =>
    obtain ⟨hy, hys⟩ := List.nodup_cons.1 hn
    have absent : ∀ {zs : List α}, (zs.map f).Sublist ys →
        (zs.reverse.find? fun x => key (f x) == key y) = none := by
      intro zs hz
      refine List.find?_eq_none.2 fun x hx hk => hy ?_
      have hx : f x ∈ zs.map f := List.mem_map_of_mem (List.mem_reverse.1 hx)
      exact beq_iff_eq.1 hk ▸ List.mem_map_of_mem (hz.subset hx)
    rcases List.sublist_cons_iff.1 hs with hs | ⟨zs, hz, hs⟩
    · simp only [List.filterMap_cons, absent hs, ih hs hys]
    · obtain ⟨x, xs, rfl, rfl, rfl⟩ := List.map_eq_cons_iff.1 hz
      have first : ((x :: xs).reverse.find? fun z => key (f z) == key (f x)) = some x := by
        rw [List.reverse_cons, List.find?_append, absent hs]
        simp
      have later : ∀ z ∈ ys, ((x :: xs).reverse.find? fun w => key (f w) == key z) =
          xs.reverse.find? fun w => key (f w) == key z := by
        intro z hz
        have hne : key (f x) ≠ key z := fun e => hy (e ▸ List.mem_map_of_mem hz)
        rw [List.reverse_cons, List.find?_append]
        simp [hne]
      simp only [List.filterMap_cons, first, List.filterMap_congr later, ih hs hys]

namespace Scope

/-- In a fresh scope an await becomes the step that has its label, or knows no statement. -/
theorem operation_opened {body : List Node} {awaits : List (Nat × Span × Node)}
    (hs : ((body.filterMap Node.step?).map Operation.await).Sublist awaits)
    (hn : (awaits.map Prod.fst).Nodup) (label : Nat) (name : String) {a : Nat × Span × Node}
    (ha : a ∈ awaits) :
    Option.guard (fun o => o.statement.isSome)
        ((opened label name body).operation a.1 a.2.1 a.2.2) =
      (body.filterMap Node.step?).reverse.find? fun o => o.await.1 == a.1 := by
  have hq : ((opened label name body).qualifying.reverse.find? fun q => q.label == a.1) =
      ((body.filterMap Node.step?).reverse.find? fun o => o.await.1 == a.1).map
        Operation.qualified := by
    rw [opened, qualified_eq_map, ← List.map_reverse, List.find?_map]
    rfl
  cases h : (body.filterMap Node.step?).reverse.find? fun o => o.await.1 == a.1 with
  | none => simp [operation, hq, h]
  | some o =>
    have ho : o ∈ body.filterMap Node.step? := List.mem_reverse.1 (List.mem_of_find?_eq_some h)
    have hk : o.await.1 = a.1 := by simpa using List.find?_some h
    obtain rfl : o.await = a :=
      List.inj_on_of_nodup_map hn (hs.subset (List.mem_map_of_mem ho)) ha hk
    obtain ⟨n, -, hstep⟩ := List.mem_filterMap.1 ho
    obtain ⟨span, hspan, -⟩ := Node.step?_eq_some hstep
    have hop : (opened label name body).operation o.await.1 o.await.2.1 o.await.2.2 = o := by
      have hst : some (o.statement.getD default) = o.statement := by simp [hspan]
      rw [operation, hq, h]
      simp only [Option.map_some, Operation.qualified, Operation.await, hst]
    rw [hop, Option.guard_eq_some_iff]
    exact ⟨rfl, by simp [hspan]⟩

/-- Of the awaits in the scope of a body, those that know their statement are the body's steps. -/
theorem topLevel_absorb_opened (cs : List String) (label : Nat) (name : String) {body : List Node}
    (hn : (((body.flatMap Node.own).filterMap Node.await?).map Prod.fst).Nodup) :
    ((opened label name body).absorb cs (body.flatMap Node.own)).topLevel =
      body.filterMap Node.step? := by
  have hs := steps_await_sublist body
  calc
    _ = ((body.flatMap Node.own).filterMap Node.await?).filterMap fun a =>
          Option.guard (fun o => o.statement.isSome)
            ((opened label name body).operation a.1 a.2.1 a.2.2) := by
      rw [topLevel, ← List.filterMap_eq_filter, absorb, opened, List.nil_append, List.filterMap_map]
      rfl
    _ = _ := List.filterMap_congr fun a ha => operation_opened hs hn label name ha
    _ = body.filterMap Node.step? := filterMap_find?_reverse hs hn

end Scope

/-- When a function of a tree is left, the awaits that know their statement are the function's steps. -/
theorem Place.AwaitsApart.topLevel_eq_steps {tree : Node} (h : tree.root.AwaitsApart) {p : Place}
    (hp : p ∈ tree.root.below) {cs : List String} {e : Scope × Bool} (he : p.exit? cs = some e) :
    e.1.topLevel = p.node.steps := by
  have apart := h.innerParts hp
  obtain ⟨n, owners⟩ := p
  cases n with
  | asyncDef label span name decorators parameters returns body =>
    obtain rfl := Option.some.inj he
    exact Scope.topLevel_absorb_opened cs label name apart
  | _ => simp [exit?, Node.closedScope?] at he

theorem Place.Distinct.topLevel_eq_steps {tree : Node} (hd : tree.root.Distinct) {p : Place}
    (hp : p ∈ tree.root.below) {cs : List String} {e : Scope × Bool} (he : p.exit? cs = some e) :
    e.1.topLevel = p.node.steps := hd.awaitsApart.topLevel_eq_steps hp he

/-! ## What the rules read of a scope -/

namespace Scope

/-- The await that a waterfall is reported on. -/
def third? (s : Scope) : Option (Nat × Span × Node) :=
  (s.operations.map Operation.await)[waterfallThreshold - 1]?

theorem waterfallReport_eq (s : Scope) (outermost : Bool) : waterfallReport s outermost =
    if s.parallel then [] else (s.third?.map fun a => .ofSpan .waterfallChain a.2.1).toList := by
  unfold waterfallReport third?
  split
  · rfl
  · rw [List.getElem?_map]
    cases s.operations[waterfallThreshold - 1]? <;> rfl

/-- The finding about a run, on its second statement. -/
def second? (run : List Operation) : Option Diagnostic :=
  (run[1]?.bind Operation.statement).map (.ofSpan .preferParallelCombinator)

theorem runsReport_eq (s : Scope) (outermost : Bool) :
    runsReport s outermost = if outermost then s.runs.filterMap second? else [] := by
  unfold runsReport
  split
  · refine List.filterMap_congr fun run _ => ?_
    unfold second?
    cases run[1]? with
    | none => rfl
    | some o => cases h : o.statement <;> simp [h]
  · rfl

end Scope

end AwaitLint
