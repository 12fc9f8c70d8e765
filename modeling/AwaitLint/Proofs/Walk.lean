import AwaitLint.Proofs.Places
import AwaitLint.Tracker

/-! # What a walk records

A walk over a tree changes the innermost open scope by the nodes that stand in it, leaves the scopes
below alone, and leaves the functions of the tree inner ones first. Policies that leave the tracker alone
only add findings.
-/

namespace AwaitLint

/-- No policy of the watch touches the tracker. -/
def Watch.Passive (w : Watch) : Prop := ∀ p ∈ w.policies, p.Passive

theorem Watch.passive_both {cs : List String} : Watch.Passive ⟨[.waterfall, .runs], cs⟩ := by
  simp [Passive, Policy.waterfall, Policy.runs, Policy.passive_ofReport]

/-- What the policies say about a scope that is left. -/
def Watch.reports (w : Watch) (e : Scope × Bool) : List Diagnostic :=
  w.policies.flatMap fun p => p.report e.1 e.2

namespace Scope

/-- The scope after some nodes have been met in it. -/
def absorb (combinators : List String) (ns : List Node) (s : Scope) : Scope :=
  { s with
    operations := s.operations ++ (ns.filterMap Node.await?).map fun a => s.operation a.1 a.2.1 a.2.2
    parallel := s.parallel || ns.any (isCombinatorCall combinators) }

@[simp] theorem absorb_label (cs : List String) (ns : List Node) (s : Scope) :
    (s.absorb cs ns).label = s.label := rfl

@[simp] theorem absorb_nil (cs : List String) (s : Scope) : s.absorb cs [] = s := by
  simp [absorb]

@[simp] theorem absorb_absorb (cs : List String) (ms ns : List Node) (s : Scope) :
    (s.absorb cs ms).absorb cs ns = s.absorb cs (ms ++ ns) := by
  simp [absorb, operation, Bool.or_assoc]

theorem absorb_singleton {n : Node} (h : n.await? = none) (cs : List String) (s : Scope) :
    s.absorb cs [n] = { s with parallel := s.parallel || isCombinatorCall cs n } := by
  simp [absorb, h]

end Scope

/-- The scope of an async function as it is left, if the node is one. -/
def Node.closedScope? (combinators : List String) : Node → Option Scope
  | asyncDef label _ id _ _ _ body =>
      some ((Scope.opened label id body).absorb combinators (body.flatMap own))
  | _ => none

/-- What is left at a place: the scope, and whether no other function is around it. -/
def Place.exit? (combinators : List String) (p : Place) : Option (Scope × Bool) :=
  (p.node.closedScope? combinators).map fun s => (s, p.owners.isEmpty)

theorem Place.label_exit? (cs : List String) (p : Place) :
    (p.exit? cs).map (fun e => e.1.label) = p.node.functionLabel? := by
  obtain ⟨n, owners⟩ := p
  cases n <;> rfl

namespace Tracker

/-- The walk after the nodes `own` were met in the innermost scope and the functions `left` were
left. -/
def after (w : Watch) (own : List Node) (left : List Place) (t : Tracker) : Tracker :=
  let exits := left.filterMap (Place.exit? w.combinators)
  { stack := t.stack.modifyHead (Scope.absorb w.combinators own)
    exits := t.exits ++ exits
    diagnostics := t.diagnostics ++ exits.flatMap w.reports }

/-- The labels of the open scopes, innermost first. -/
def owners (t : Tracker) : List Nat := t.stack.map Scope.label

@[simp] theorem owners_after (w : Watch) (own : List Node) (left : List Place) (t : Tracker) :
    (t.after w own left).owners = t.owners := by
  cases h : t.stack <;> simp [owners, after, h]

@[simp] theorem owners_enter (label : Nat) (name : String) (body : List Node) (t : Tracker) :
    (t.enter label name body).owners = label :: t.owners := rfl

@[simp] theorem after_nil (w : Watch) (t : Tracker) : t.after w [] [] = t := by
  obtain ⟨stack, exits, diagnostics⟩ := t
  cases stack <;> simp [after]

@[simp] theorem after_after (w : Watch) (own own' : List Node) (left left' : List Place) (t : Tracker) :
    (t.after w own left).after w own' left' = t.after w (own ++ own') (left ++ left') := by
  obtain ⟨stack, exits, diagnostics⟩ := t
  cases stack <;> simp [after]

/-- What a node other than a function does to a walk before its parts are visited. -/
def meet (w : Watch) : Node → Tracker → Tracker
  | .await label span value, t => t.recordAwait label span value
  | .call func args keywords, t => t.noteCall w (.call func args keywords)
  | _, t => t

theorem meet_eq_after (w : Watch) (n : Node) (t : Tracker) : t.meet w n = t.after w [n] [] := by
  obtain ⟨stack, exits, diagnostics⟩ := t
  cases stack with
  | nil => cases n <;> simp [meet, recordAwait, noteCall, after]
  | cons s rest =>
    cases n with
    | await label span value =>
      simp [meet, recordAwait, after, Scope.absorb, Scope.record, Node.await?, isCombinatorCall]
    | call func args keywords =>
      simp only [meet, noteCall, after, List.modifyHead_cons]
      rw [Scope.absorb_singleton rfl]
      split <;> simp_all
    | _ =>
      simp only [meet, after, List.modifyHead_cons]
      rw [Scope.absorb_singleton rfl]
      simp [isCombinatorCall]

theorem after_cons_asyncDef (w : Watch) (label : Nat) (span : Span) (name : String)
    (decorators : List Node) (parameters returns : Node) (body own : List Node) (left : List Place)
    (t : Tracker) :
    t.after w (.asyncDef label span name decorators parameters returns body :: own) left =
      t.after w own left := by
  have hs : ∀ s : Scope, s.absorb w.combinators
      (.asyncDef label span name decorators parameters returns body :: own) =
        s.absorb w.combinators own := by
    intro s
    rw [← List.singleton_append, ← Scope.absorb_absorb, Scope.absorb_singleton rfl]
    simp [isCombinatorCall]
  cases h : t.stack <;> simp [after, h, hs]

theorem visitAll_append (w : Watch) (xs ys : List Node) (t : Tracker) :
    visitAll w (xs ++ ys) t = visitAll w ys (visitAll w xs t) := by
  induction xs generalizing t with
  | nil => rfl
  | cons x xs ih => exact ih (visit w x t)

theorem visit_of_not_function {w : Watch} {n : Node} (h : n.functionLabel? = none) (t : Tracker) :
    visit w n t = visitAll w n.outerParts (t.meet w n) := by
  cases n <;> simp_all [visit, visitAll, visitAll_append, Node.outerParts, Node.children, meet,
    Node.functionLabel?]

theorem visit_asyncDef (w : Watch) (label : Nat) (span : Span) (name : String) (decorators : List Node)
    (parameters returns : Node) (body : List Node) (t : Tracker) :
    visit w (.asyncDef label span name decorators parameters returns body) t =
      (visitAll w body ((visitAll w (decorators ++ [parameters, returns]) t).enter label name body)).exit
        w label := by
  simp [visit, visitAll, visitAll_append]

/-- Passive policies that are consulted one after the other only add their findings. -/
theorem foldl_consult {ps : List Policy} (h : ∀ p ∈ ps, p.Passive) (s : Scope) (outermost : Bool)
    (t : Tracker) : ps.foldl (consult s outermost) t =
      { t with diagnostics := t.diagnostics ++ ps.flatMap fun p => p.report s outermost } := by
  induction ps generalizing t with
  | nil => simp
  | cons p ps ih =>
    have first : consult s outermost t p =
        { t with diagnostics := t.diagnostics ++ p.report s outermost } := by
      simp [consult, h p List.mem_cons_self s outermost t]
    rw [List.foldl_cons, first, ih fun q hq => h q (List.mem_cons_of_mem _ hq)]
    simp

theorem close_of_passive {w : Watch} (hw : w.Passive) (s : Scope) (rest : List Scope) (t : Tracker) :
    t.close w s rest =
      ⟨rest, t.exits ++ [(s, rest.isEmpty)], t.diagnostics ++ w.reports (s, rest.isEmpty)⟩ :=
  foldl_consult hw s rest.isEmpty _

/-- Entering a function, going through its body and leaving it again changes no open scope. -/
theorem exit_after_enter {w : Watch} (hw : w.Passive) (t : Tracker) (label : Nat) (span : Span)
    (name : String) (decorators : List Node) (parameters returns : Node) (body : List Node)
    (left : List Place) :
    ((t.enter label name body).after w (body.flatMap Node.own) left).exit w label =
      t.after w [] (left ++
        [⟨.asyncDef label span name decorators parameters returns body, t.owners⟩]) := by
  obtain ⟨stack, exits, diagnostics⟩ := t
  cases stack <;>
    simp [enter, after, exit, close_of_passive hw, owners, Place.exit?, Node.closedScope?, Scope.opened]

/-- A walk over statements, if the walk over each of them is known. -/
theorem visitAll_eq_after {w : Watch} {xs : List Node}
    (h : ∀ x ∈ xs, ∀ t, visit w x t = t.after w x.own (Place.exitOrder ⟨x, t.owners⟩)) (t : Tracker) :
    visitAll w xs t =
      t.after w (xs.flatMap Node.own) (xs.flatMap fun x => Place.exitOrder ⟨x, t.owners⟩) := by
  induction xs generalizing t with
  | nil => simp [visitAll]
  | cons x xs ih =>
    rw [visitAll, h x List.mem_cons_self, ih fun y hy => h y (List.mem_cons_of_mem _ hy)]
    simp

/-- The walk over a tree, whatever scopes are open. -/
theorem visit_eq_after {w : Watch} (hw : w.Passive) (n : Node) (t : Tracker) :
    visit w n t = t.after w n.own (Place.exitOrder ⟨n, t.owners⟩) := by
  induction n using Node.inductionOnParts generalizing t with
  | step n outer inner =>
    rw [Place.exitOrder_eq, Place.flatMap_parts, Node.own_eq]
    cases hf : n.functionLabel? with
    | none =>
      have hi : n.innerParts = [] := by
        cases n <;> simp_all [Node.innerParts, Node.functionLabel?]
      rw [visit_of_not_function hf, visitAll_eq_after outer, meet_eq_after]
      simp [hi]
    | some l =>
      cases n with
      | asyncDef label span name decorators parameters returns body =>
        have header : visitAll w (decorators ++ [parameters, returns]) t = _ := visitAll_eq_after outer t
        have statements : ∀ t, visitAll w body t = _ := visitAll_eq_after inner
        rw [visit_asyncDef, header, statements,
          exit_after_enter hw _ label span name decorators parameters returns body]
        obtain rfl : label = l := Option.some.inj hf
        simp [after_cons_asyncDef, Node.outerParts, Node.innerParts]
      | _ => simp [Node.functionLabel?] at hf

end Tracker

end AwaitLint
