import AwaitLint.Proofs.Walk

/-! # Requests to a tracker in any order

Scopes may be entered and left by hand, and nodes may be visited in between, whether or not the entries
and exits match. The open scopes still follow the discipline of a stack: what is visited only adds to the
innermost scope, and every scope that was opened is either still open or was handed to the policies once.
-/

namespace AwaitLint

/-- The later state of an open scope: awaits are only added at the end, and a call of a combinator is
not forgotten. -/
structure Scope.Grows (s s' : Scope) : Prop where
  label : s'.label = s.label
  name : s'.name = s.name
  qualifying : s'.qualifying = s.qualifying
  operations : s.operations <+: s'.operations
  parallel : s.parallel = true → s'.parallel = true

namespace Scope

theorem grows_refl (s : Scope) : s.Grows s := ⟨rfl, rfl, rfl, List.prefix_rfl, id⟩

theorem grows_absorb (cs : List String) (ns : List Node) (s : Scope) : s.Grows (s.absorb cs ns) := by
  refine ⟨rfl, rfl, rfl, List.prefix_append _ _, ?_⟩
  intro h
  simp [absorb, h]

end Scope

/-- The scopes that are left below a place are those of its functions, each once. -/
theorem Place.labels_left_perm (cs : List String) (p : Place) :
    ((p.exitOrder.filterMap (exit? cs)).map fun e => e.1.label).Perm p.functionLabels := by
  have labels : ((p.exitOrder.filterMap (exit? cs)).map fun e => e.1.label) =
      p.exitOrder.filterMap fun q => q.node.functionLabel? := by
    rw [List.map_filterMap]
    exact List.filterMap_congr fun q _ => label_exit? cs q
  rw [labels]
  exact (exitOrder_perm p).filterMap _

namespace Tracker

/-- What a tracker can be asked to do. -/
inductive Request
  | enter (label : Nat) (name : String) (body : List Node)
  | exit (label : Nat)
  | visit (node : Node)
  | run (tree : Node)

def perform (w : Watch) (t : Tracker) : Request → Tracker × Option StackError
  | .enter label name body => (t.enter label name body, none)
  | .exit label => (t.exit w label, none)
  | .visit node => (visit w node t, none)
  | .run tree => t.run w tree

/-- The state after some requests; a request that is refused does not keep the others back. -/
def performAll (w : Watch) (requests : List Request) (t : Tracker) : Tracker :=
  requests.foldl (fun t r => (t.perform w r).1) t

namespace Request

/-- The discipline of a stack, for the labels of the open functions: entering puts one on top, leaving
takes it off if it is on top, and nothing else counts. -/
def discipline (owners : List Nat) : Request → List Nat
  | enter label _ _ => label :: owners
  | exit label => if owners.head? = some label then owners.tail else owners
  | visit _ => owners
  | run _ => owners

/-- The labels of the functions whose scopes are opened, for good or for the time of the request. -/
def opened (t : Tracker) : Request → List Nat
  | enter label _ _ => [label]
  | exit _ => []
  | visit node => Place.functionLabels ⟨node, t.owners⟩
  | run tree => if t.stack.isEmpty then tree.root.functionLabels else []

/-- The scopes that are left, as they are then, with whether no other scope is open. -/
def left (w : Watch) (t : Tracker) : Request → List (Scope × Bool)
  | enter _ _ _ => []
  | exit label => match t.stack with
    | [] => []
    | s :: rest => if s.label = label then [(s, rest.isEmpty)] else []
  | visit node => (Place.exitOrder ⟨node, t.owners⟩).filterMap (Place.exit? w.combinators)
  | run tree =>
    if t.stack.isEmpty then tree.root.exitOrder.filterMap (Place.exit? w.combinators) else []

/-- What a request does to a tracker. -/
structure Obeyed (w : Watch) (r : Request) (t t' : Tracker) (refusal : Option StackError) : Prop where
  owners : t'.owners = r.discipline t.owners
  /-- Only a walk is refused, and only if a scope is open. -/
  refused : refusal.isSome ↔ (∃ tree, r = run tree) ∧ t.stack ≠ []
  unchanged : refusal.isSome → t' = t
  /-- An exit that does not match does nothing. -/
  mismatched : ∀ label, r = exit label → t.owners.head? ≠ some label → t' = t
  entered : ∀ label name body, r = enter label name body → t'.stack = .opened label name body :: t.stack
  exited : ∀ label, r = exit label → t'.stack <:+ t.stack
  /-- A visit adds to the innermost scope, and changes no scope below it. -/
  visited : ∀ node, r = visit node ∨ r = run node →
    t'.stack.tail = t.stack.tail ∧ List.Forall₂ Scope.Grows t.stack t'.stack
  exits : t'.exits = t.exits ++ r.left w t
  /-- Each policy is asked once about each scope that is left. -/
  diagnostics : t'.diagnostics = t.diagnostics ++ (r.left w t).flatMap w.reports
  /-- No scope is lost or left twice. -/
  conserved : ((r.left w t).map (fun e => e.1.label) ++ t'.owners).Perm (r.opened t ++ t.owners)

end Request

/-! ## One request -/

variable {w : Watch}

theorem owners_eq_nil_iff {t : Tracker} : t.owners = [] ↔ t.stack = [] := List.map_eq_nil_iff

theorem obeyed_enter (w : Watch) (label : Nat) (name : String) (body : List Node) (t : Tracker) :
    (Request.enter label name body).Obeyed w t (t.enter label name body) none where
  owners := rfl
  refused := by simp
  unchanged := by simp
  mismatched := by simp
  entered := by
    rintro _ _ _ ⟨⟩
    rfl
  exited := by simp
  visited := by simp
  exits := (List.append_nil _).symm
  diagnostics := (List.append_nil _).symm
  conserved := List.Perm.refl _

/-- An exit takes the innermost scope off, if it has the label; otherwise nothing happens. -/
theorem exit_cases (hw : w.Passive) (label : Nat) (t : Tracker) :
    (∃ s rest, t.stack = s :: rest ∧ s.label = label ∧ t.exit w label =
      ⟨rest, t.exits ++ [(s, rest.isEmpty)], t.diagnostics ++ w.reports (s, rest.isEmpty)⟩) ∨
    (t.owners.head? ≠ some label ∧ t.exit w label = t) := by
  cases hs : t.stack with
  | nil => exact .inr ⟨by simp [owners, hs], by simp [exit, hs]⟩
  | cons s rest =>
    by_cases hl : s.label = label
    · refine .inl ⟨s, rest, rfl, hl, ?_⟩
      simp [exit, hs, hl, close_of_passive hw]
    · exact .inr ⟨by simp [owners, hs, hl], by simp [exit, hs, hl]⟩

theorem obeyed_exit (hw : w.Passive) (label : Nat) (t : Tracker) :
    (Request.exit label).Obeyed w t (t.exit w label) none := by
  rcases exit_cases hw label t with ⟨s, rest, hs, hl, he⟩ | ⟨hne, he⟩
  · have top : t.owners = label :: rest.map Scope.label := by simp [owners, hs, hl]
    have gone : (Request.exit label).left w t = [(s, rest.isEmpty)] := by simp [Request.left, hs, hl]
    rw [he]
    refine ⟨?_, by simp, by simp, ?_, by simp, ?_, by simp, ?_, ?_, ?_⟩
    · rw [Request.discipline, top]
      simp [owners]
    · rintro _ ⟨⟩ hne
      exact absurd (by rw [top]; rfl) hne
    · rintro _ -
      exact hs ▸ List.suffix_cons s rest
    · rw [gone]
    · simp [gone]
    · simp [gone, Request.opened, owners, hs]
  · have still : (Request.exit label).left w t = [] := by
      cases hs : t.stack with
      | nil => simp [Request.left, hs]
      | cons s rest =>
        have hl : s.label ≠ label := by simpa [owners, hs] using hne
        simp [Request.left, hs, hl]
    rw [he]
    refine ⟨?_, by simp, by simp, by simp, by simp, ?_, by simp, ?_, ?_, ?_⟩
    · simp [Request.discipline, hne]
    · exact fun _ _ => List.suffix_rfl
    · simp [still]
    · simp [still]
    · simp [still, Request.opened]

/-- What a visit leaves of the open scopes. -/
theorem stack_after (w : Watch) (own : List Node) (places : List Place) (t : Tracker) :
    (t.after w own places).stack.tail = t.stack.tail ∧
      List.Forall₂ Scope.Grows t.stack (t.after w own places).stack := by
  cases hs : t.stack with
  | nil => simp [after, hs]
  | cons s rest =>
    have below : List.Forall₂ Scope.Grows rest rest := List.forall₂_same.2 fun s _ => s.grows_refl
    refine ⟨by simp [after, hs], ?_⟩
    simp only [after, hs, List.modifyHead_cons]
    exact .cons (s.grows_absorb w.combinators own) below

theorem obeyed_visit (hw : w.Passive) (node : Node) (t : Tracker) :
    (Request.visit node).Obeyed w t (visit w node t) none := by
  rw [visit_eq_after hw]
  have stack := stack_after w node.own (Place.exitOrder ⟨node, t.owners⟩) t
  refine ⟨owners_after .., by simp, by simp, by simp, by simp, by simp, fun _ _ => stack, rfl, rfl, ?_⟩
  rw [owners_after]
  exact (Place.labels_left_perm w.combinators _).append_right _

theorem obeyed_run (hw : w.Passive) (tree : Node) (t : Tracker) :
    (Request.run tree).Obeyed w t (t.run w tree).1 (t.run w tree).2 := by
  by_cases hs : t.stack = []
  · have none_open : t.owners = [] := owners_eq_nil_iff.2 hs
    have closed : (visit w tree t).stack = [] := by
      rw [visit_eq_after hw]
      simp [after, hs]
    have walked : t.run w tree = (visit w tree t, none) := by simp [run, hs, closed]
    have visited := obeyed_visit hw tree t
    rw [walked]
    -- with no scope open, the walk is a visit of the root
    refine ⟨visited.owners, by simp [hs], by simp, by simp, by simp, by simp, ?_, ?_, ?_, ?_⟩
    · exact fun _ _ => visited.visited tree (.inl rfl)
    · simpa [Request.left, hs, none_open, Node.root] using visited.exits
    · simpa [Request.left, hs, none_open, Node.root] using visited.diagnostics
    · simpa [Request.left, Request.opened, hs, none_open, Node.root] using visited.conserved
  · have refused : t.run w tree = (t, some .stillOpen) := by simp [run, hs]
    have same : List.Forall₂ Scope.Grows t.stack t.stack := List.forall₂_same.2 fun s _ => s.grows_refl
    rw [refused]
    refine ⟨rfl, by simp [hs], by simp, by simp, by simp, by simp, fun _ _ => ⟨rfl, same⟩, ?_, ?_, ?_⟩
    · simp [Request.left, hs]
    · simp [Request.left, hs]
    · simp [Request.left, Request.opened, hs]

theorem obeyed_perform (hw : w.Passive) (r : Request) (t : Tracker) :
    r.Obeyed w t (t.perform w r).1 (t.perform w r).2 := by
  cases r with
  | enter label name body => exact obeyed_enter w label name body t
  | exit label => exact obeyed_exit hw label t
  | visit node => exact obeyed_visit hw node t
  | run tree => exact obeyed_run hw tree t

/-! ## Any sequence of requests -/

theorem performAll_cons (w : Watch) (r : Request) (requests : List Request) (t : Tracker) :
    t.performAll w (r :: requests) = (t.perform w r).1.performAll w requests := rfl

theorem performAll_append (w : Watch) (before after : List Request) (t : Tracker) :
    t.performAll w (before ++ after) = (t.performAll w before).performAll w after :=
  List.foldl_append

theorem owners_performAll (hw : w.Passive) (requests : List Request) (t : Tracker) :
    (t.performAll w requests).owners = requests.foldl Request.discipline t.owners := by
  induction requests generalizing t with
  | nil => rfl
  | cons r requests ih => rw [performAll_cons, ih, (obeyed_perform hw r t).owners, List.foldl_cons]

/-- What has been handed over and reported stays as it is. -/
theorem prefix_performAll (hw : w.Passive) (requests : List Request) (t : Tracker) :
    t.exits <+: (t.performAll w requests).exits ∧
      t.diagnostics <+: (t.performAll w requests).diagnostics := by
  induction requests generalizing t with
  | nil => exact ⟨List.prefix_rfl, List.prefix_rfl⟩
  | cons r requests ih =>
    have first := obeyed_perform hw r t
    obtain ⟨hexits, hdiagnostics⟩ := ih (t.perform w r).1
    rw [performAll_cons]
    constructor
    · exact List.IsPrefix.trans ⟨_, first.exits.symm⟩ hexits
    · exact List.IsPrefix.trans ⟨_, first.diagnostics.symm⟩ hdiagnostics

/-- Whatever a tracker is asked to do, and in whichever order, its open scopes follow the discipline of a
stack, each request does what `Request.Obeyed` says, and later requests change neither the scopes that
were left before nor what was reported about them. -/
theorem performAll_keeps_discipline (w : Watch) (hw : w.Passive) (requests : List Request) (t : Tracker) :
    (t.performAll w requests).owners = requests.foldl Request.discipline t.owners ∧
    ∀ before r after, requests = before ++ r :: after →
      let t₁ := t.performAll w before
      let (t₂, refusal) := t₁.perform w r
      r.Obeyed w t₁ t₂ refusal ∧ t₂.exits <+: (t.performAll w requests).exits ∧
        t₂.diagnostics <+: (t.performAll w requests).diagnostics := by
  refine ⟨owners_performAll hw requests t, ?_⟩
  rintro before r after rfl
  rw [performAll_append, performAll_cons]
  exact ⟨obeyed_perform hw r _, prefix_performAll hw after _⟩

/-- A function is entered twice, a function that is not on top is left, and a walk is refused while the
scopes are open. -/
def mismatchedRequests : List Request :=
  [.enter 7 "f" [], .enter 7 "f" [], .visit (.await 3 default (.name "x")), .exit 8, .run .absent, .exit 7,
    .exit 7, .run .absent]

theorem performAll_keeps_discipline_mismatched :
    let w : Watch := ⟨[.waterfall, .runs], defaultCombinators⟩
    let t := ({} : Tracker).performAll w mismatchedRequests
    w.Passive ∧ t.owners = [] ∧ ∀ before r after, mismatchedRequests = before ++ r :: after →
      let t₁ := ({} : Tracker).performAll w before
      let (t₂, refusal) := t₁.perform w r
      r.Obeyed w t₁ t₂ refusal ∧ t₂.exits <+: t.exits ∧ t₂.diagnostics <+: t.diagnostics := by
  intro w t
  have hw : w.Passive := Watch.passive_both
  obtain ⟨howners, hrequests⟩ := performAll_keeps_discipline w hw mismatchedRequests {}
  exact ⟨hw, howners.trans (by decide), hrequests⟩

end Tracker

end AwaitLint
