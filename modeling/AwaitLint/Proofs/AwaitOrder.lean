import AwaitLint.Proofs.Findings
import AwaitLint.Proofs.StatementOrder

/-! # The order of the recorded awaits

An async function records its awaits in the order of a walk. This is the order of the text, except for awaits in parts
of a node that the node swaps.
-/

namespace AwaitLint

/-- Where the recorded awaits start, oldest first. -/
def Scope.starts (s : Scope) : List Position := s.operations.map fun o => o.span.start

namespace Node

/-- The nodes in the scope that an async function opens, in the order of a walk. -/
def code (n : Node) : List Node := n.innerParts.flatMap own

/-- The order in which the function `n` records its awaits in `s`. -/
structure Records (n : Node) (s : Scope) : Prop where
  /-- Of two awaits the one recorded first starts first, unless they stand in parts that a node swaps. -/
  ordered : s.starts.Pairwise fun a b => a < b ∨ SwappedIn n.code a b
  /-- All awaits are recorded in order if and only if those in swapped parts are in order. -/
  increasing : s.starts.Pairwise (· < ·) ↔ ∀ a b, SwappedIn n.code a b → a < b
  /-- A waterfall is reported on the await recorded third. This is the third as read, so two awaits of the function
  start before it, if it is in order with all awaits with which it stands in swapped parts. -/
  anchored : ∀ outermost, ∀ d ∈ waterfallReport s outermost, ∃ o, s.operations[2]? = some o ∧
    d = .ofSpan .waterfallChain o.span ∧
      ((∀ a b, SwappedIn n.code a b → a = o.span.start ∨ b = o.span.start → a < b) →
        (s.starts.filter (· < o.span.start)).length = 2)

theorem awaitStarts_sublist {m n : Node} (h : m ∈ n.own) : m.awaitStarts.Sublist n.awaitStarts := by
  induction n using inductionOnParts with
  | step n outer _ =>
    rw [own_eq, List.mem_cons] at h
    rcases h with rfl | h
    · exact .refl _
    · obtain ⟨c, hc, hm⟩ := List.mem_flatMap.1 h
      have part : c.awaitStarts.Sublist (n.outerParts.flatMap awaitStarts) := by
        simpa using (List.singleton_sublist.2 hc).flatMap awaitStarts
      rw [awaitStarts_eq n]
      exact ((outer c hc hm).trans part).trans (List.sublist_append_right _ _)

/-- Awaits that are recorded in order are also in order in parts that are swapped. -/
theorem lt_of_swappedIn {ns : List Node} (h : (ns.flatMap awaitStarts).Pairwise (· < ·)) {a b : Position}
    (hab : SwappedIn (ns.flatMap own) a b) : a < b := by
  obtain ⟨m, hm, i, j, c, d, hij, -, first, second, ha, hb⟩ := hab
  obtain ⟨n, hn, hm⟩ := List.mem_flatMap.1 hm
  have part : n.awaitStarts.Sublist (ns.flatMap awaitStarts) := by
    simpa using (List.singleton_sublist.2 hn).flatMap awaitStarts
  have here : m.awaitStarts.Pairwise (· < ·) := h.sublist ((awaitStarts_sublist hm).trans part)
  rw [awaitStarts_eq, List.pairwise_append, List.pairwise_flatMap] at here
  exact rel_of_pairwise here.2.1.2 hij first second a ha b hb

theorem starts_closedScope? {n : Node} {cs : List String} {s : Scope} (h : n.closedScope? cs = some s) :
    s.starts = n.innerParts.flatMap awaitStarts := by
  cases n with
  | asyncDef label span name decorators parameters returns body =>
    cases h
    have recorded := Scope.map_await_absorb_opened cs label name body (body.flatMap own)
    replace recorded := congrArg (List.map fun a => a.2.1.start) recorded
    rw [List.map_map, List.map_filterMap, List.filterMap_flatMap] at recorded
    exact recorded
  | _ => cases h

theorem Straight.of_mem_below {p q : Place} (h : p.node.Straight) (hq : q ∈ p.below) : q.node.Straight := by
  induction p using Place.inductionOnParts with
  | step p ih =>
    rcases Place.mem_below.1 hq with rfl | ⟨r, hr, hq⟩
    · exact h
    · refine ih r hr ?_ hq
      cases h with
      | mk here outer inner =>
        rcases Place.mem_parts.1 hr with ⟨hr, -⟩ | ⟨hr, -⟩
        · exact outer _ hr
        · exact inner _ hr

/-- As many positions are before the one at index `i` as are listed before it, if those and no others are before it. -/
theorem length_filter_lt {R : Position → Position → Prop} {ps : List Position} (h : ps.Pairwise R) {i : Nat}
    {p : Position} (hp : ps[i]? = some p) (earlier : ∀ q, R q p → q < p) (later : ∀ q, R p q → p < q) :
    (ps.filter (· < p)).length = i := by
  induction ps generalizing i with
  | nil => cases hp
  | cons q ps ih =>
    rw [List.pairwise_cons] at h
    cases i with
    | zero =>
      obtain rfl : q = p := by simpa using hp
      rw [List.length_eq_zero_iff, List.filter_eq_nil_iff]
      intro r hr
      rcases List.mem_cons.1 hr with rfl | hr
      · simp
      · simpa using (later r (h.1 r hr)).le
    | succ i =>
      have hp : ps[i]? = some p := by simpa using hp
      have first : q < p := earlier q (h.1 p (List.mem_of_getElem? hp))
      rw [List.filter_cons_of_pos (by simpa using first), List.length_cons, ih h.2 hp]

theorem eq_of_mem_waterfallReport {s : Scope} {outermost : Bool} {d : Diagnostic}
    (h : d ∈ waterfallReport s outermost) :
    ∃ o, s.operations[2]? = some o ∧ d = .ofSpan .waterfallChain o.span := by
  unfold waterfallReport at h
  split at h
  · cases h
  split at h
  · next o third => exact ⟨o, third, List.mem_singleton.1 h⟩
  · cases h

theorem Straight.records {n : Node} (h : n.Straight) {cs : List String} {s : Scope} (hs : n.closedScope? cs = some s) :
    n.Records s := by
  have starts := starts_closedScope? hs
  cases h with
  | mk here outer inner =>
    have ordered : s.starts.Pairwise fun a b => a < b ∨ SwappedIn n.code a b := by
      rw [starts]
      exact pairwise_flatMap_awaitStarts inner here.inner
    refine ⟨ordered, ⟨fun increasing a b => ?_, fun swapped => ?_⟩, fun outermost d hd => ?_⟩
    · rw [starts] at increasing
      exact lt_of_swappedIn increasing
    · exact ordered.imp fun hab => hab.elim id (swapped _ _)
    · obtain ⟨o, third, rfl⟩ := eq_of_mem_waterfallReport hd
      refine ⟨o, third, rfl, fun swapped => length_filter_lt ordered ?_ (fun a ha => ?_) fun b hb => ?_⟩
      · rw [Scope.starts, List.getElem?_map, third, Option.map_some]
      · exact ha.elim id fun ha => swapped a _ ha (.inr rfl)
      · exact hb.elim id fun hb => swapped _ b hb (.inl rfl)

end Node

namespace Tracker

/-- For a text that parses, a walk records the awaits of every async function in the order of the text, except for
those in parts that a node swaps. -/
theorem run_records_in_order (w : Watch) (hw : w.Passive) {text : List Char} {tree : Node}
    (h : Grammar.parseText text = .ok tree) :
    ∃ t order, ({} : Tracker).run w tree = (t, none) ∧ order.Perm tree.root.functions ∧
      List.Forall₂ (fun (p : Place) (e : Scope × Bool) => p.Exited w.combinators tree e ∧ p.node.Records e.1)
        order t.exits := by
  have hd := Analysis.distinct_of_parseText h
  refine ⟨_, _, run_eq hw tree, Place.exitOrder_perm _, forall₂_filterMap fun p hp => ?_⟩
  obtain ⟨e, he, exited⟩ := Place.exited_of_mem_exitOrder hd w.combinators hp
  obtain ⟨s, hs, rfl⟩ := Option.map_eq_some_iff.1 he
  have straight := (Grammar.straight_of_parseText h).of_mem_below (p := tree.root) (Place.mem_exitOrder.1 hp).1
  exact ⟨_, he, exited, straight.records hs⟩

/-- A function with an await in the operand of another one. -/
def nestedAwait : List Char :=
  "async def f():\n    x = await g(await h())\n    return [x, await k(x)]\n".toList

theorem run_records_in_order_nestedAwait :
    let w : Watch := ⟨[.waterfall, .runs], defaultCombinators⟩
    w.Passive ∧ ∃ tree, Grammar.parseText nestedAwait = .ok tree ∧
      ∃ t order, ({} : Tracker).run w tree = (t, none) ∧ order.Perm tree.root.functions ∧
        List.Forall₂ (fun (p : Place) (e : Scope × Bool) => p.Exited w.combinators tree e ∧ p.node.Records e.1)
          order t.exits := by
  intro w
  have hw : w.Passive := Watch.passive_both
  have parses : (Grammar.parseText nestedAwait).isOk = true := by decide +kernel
  obtain ⟨tree, h⟩ := Grammar.exists_of_isOk parses
  exact ⟨hw, tree, h, run_records_in_order w hw h⟩

/-- Functions with awaits in swapped parts, one for each way to swap parts. -/
def swappedTexts : List String :=
  ["async def f():\n    return [await a, await b if await c else 0]\n",
    "async def f():\n    return \x7bawait a: await b, await c: await d\x7d\n",
    "async def f():\n    match x:\n        "
      ++ "case \x7bf'\x7bawait a\x7d': f'\x7bawait b\x7d', f'\x7bawait c\x7d': _\x7d:\n            pass\n",
    "async def f():\n    return g(x=await a, y=await b, *await c)\n",
    "async def f():\n    def g(x=await a, y: await b = 1, z: await c = 2): pass\n",
    "async def f():\n    @g(await a)\n    def h(x=await b, y=await c): pass\n"]

instance {ε α : Type} (x : Except ε α) (p : α → Prop) [DecidablePred p] : Decidable (∃ a, x = .ok a ∧ p a) :=
  match x with
  | .ok a => decidable_of_iff (p a) (by simp)
  | .error _ => isFalse (by simp)

/-- Each of these functions records an await before an earlier one, and its waterfall is reported on another await than
the third as read. -/
theorem run_records_out_of_order : swappedTexts.Forall fun text =>
    ∃ tree, Grammar.parseText text.toList = .ok tree ∧
      ∃ e ∈ (({} : Tracker).run ⟨[.waterfall, .runs], defaultCombinators⟩ tree).1.exits,
        ¬ e.1.starts.Pairwise (· < ·) ∧ ∃ o ∈ e.1.operations,
          waterfallReport e.1 e.2 = [.ofSpan .waterfallChain o.span] ∧
            (e.1.starts.filter (· < o.span.start)).length ≠ 2 := by
  decide +kernel

end Tracker

end AwaitLint
