import AwaitLint.Grammar.Expression
import AwaitLint.Proofs.Numbering
import Mathlib.Data.Prod.Lex

/-! # Trees whose awaits are in the order of the text

A walk visits the parts of most nodes in the order in which they are written. `Swaps` lists the exceptions. A tree is
straight if all other parts are in order, and then two awaits of one scope can be met out of order only in two parts of
a node that it swaps.
-/

namespace AwaitLint

/-- A line and a column. Positions are in the order of reading. -/
abbrev Position := ℤ ×ₗ ℤ

/-- Where a span starts. -/
def Span.start (s : Span) : Position := toLex (s.line, s.column)

namespace Node

/-- Where the awaits below a node start that stand in its own scope, in the order of a walk. -/
def awaitStarts (n : Node) : List Position := n.own.filterMap fun m => m.await?.map fun a => a.2.1.start

theorem awaitStarts_eq (n : Node) :
    n.awaitStarts = (n.await?.map fun a => a.2.1.start).toList ++ n.outerParts.flatMap awaitStarts := by
  unfold awaitStarts
  rw [own_eq, List.filterMap_cons, List.filterMap_flatMap]
  cases n.await? <;> rfl

theorem awaitStarts_of_not_await {n : Node} (h : n.await? = none) :
    n.awaitStarts = n.outerParts.flatMap awaitStarts := by
  rw [awaitStarts_eq, h]
  rfl

/-- All awaits of the one node start before all awaits of the other. -/
def Before (c d : Node) : Prop := ∀ a ∈ c.awaitStarts, ∀ b ∈ d.awaitStarts, a < b

def isStatement : Node → Bool
  | asyncDef .. | assign .. | annAssign .. | exprStmt .. | compound _ => true
  | _ => false

def isParameter : Node → Bool
  | parameter _ _ => true
  | _ => false

/-- An expression, or the lack of one. -/
def isValue (n : Node) : Bool := !n.isStatement && !n.isParameter

theorem isStatement_of_isValue {n : Node} (h : n.isValue = true) : n.isStatement = false := by
  simp only [isValue, Bool.and_eq_true, Bool.not_eq_true'] at h
  exact h.1

theorem isParameter_of_isValue {n : Node} (h : n.isValue = true) : n.isParameter = false := by
  simp only [isValue, Bool.and_eq_true, Bool.not_eq_true'] at h
  exact h.2

def isNamedArgument : Node → Bool
  | keyword (some _) _ => true
  | _ => false

/-- A node visits its part number `i` before its part number `j`, and the text may have them the other way round. -/
inductive Swaps : Node → Nat → Nat → Prop
  /-- The test of a conditional expression and what is written before it. -/
  | test {x y z : Node} : Swaps (conditional x y z) 0 1
  /-- A key of a display and the value of an earlier pair. -/
  | pair {keys values : List Node} {i j : Nat} (key : i < keys.length) (value : j < i) :
      Swaps (dict keys values) i (keys.length + j)
  /-- A key of a mapping pattern and the pattern of an earlier key. -/
  | item {keys parts : List Node} {rest : Option String} {i j : Nat} (key : i < keys.length) (part : j < i) :
      Swaps (mappingPattern keys parts rest) i (keys.length + j)
  /-- A starred argument and a named one. -/
  | argument {n c d : Node} {i j : Nat} (first : n.outerParts[i]? = some c) (second : n.outerParts[j]? = some d)
      (spread : Grammar.isStarred c = true) (named : d.isNamedArgument = true) : Swaps n i j
  /-- A default value and any other part of the parameters. -/
  | default {parts : List Node} {p d : Node} {i j : Nat} (listed : p ∈ parts) (param : p.isParameter = true)
      (second : parts[j]? = some d) (value : d.isParameter = false) : Swaps (compound parts) i j
  /-- The decorators or the return type of a definition, which are visited after its body, and a part before them. -/
  | heading {parts : List Node} {s d : Node} {i j k : Nat} (before : i ≤ k) (after : k < j)
      (between : parts[k]? = some s) (body : s.isStatement = true) (second : parts[j]? = some d)
      (head : d.isStatement = false) : Swaps (compound parts) i j

/-- The parts of the node are in order, except those that it swaps. -/
structure PartsInOrder (n : Node) : Prop where
  outer : ∀ {i j : Nat} {c d : Node}, i < j → n.outerParts[i]? = some c → n.outerParts[j]? = some d →
    n.Swaps i j ∨ Before c d
  inner : n.innerParts.Pairwise Before
  operand : ∀ a ∈ n.await?, ∀ b ∈ a.2.2.awaitStarts, a.2.1.start < b

/-- The parts of all nodes of the tree are in order, except those that are swapped. -/
inductive Straight : Node → Prop
  | mk {n : Node} (here : n.PartsInOrder) (outer : ∀ m ∈ n.outerParts, Straight m)
      (inner : ∀ m ∈ n.innerParts, Straight m) : Straight n

/-- The two awaits stand in two parts of one of the nodes, which it swaps. -/
def SwappedIn (ns : List Node) (a b : Position) : Prop :=
  ∃ m ∈ ns, ∃ (i j : Nat) (c d : Node), i < j ∧ m.Swaps i j ∧ m.outerParts[i]? = some c ∧
    m.outerParts[j]? = some d ∧ a ∈ c.awaitStarts ∧ b ∈ d.awaitStarts

theorem SwappedIn.mono {ms ns : List Node} (h : ms ⊆ ns) {a b : Position} (hab : SwappedIn ms a b) :
    SwappedIn ns a b := by
  obtain ⟨m, hm, rest⟩ := hab
  exact ⟨m, h hm, rest⟩

theorem flatMap_own_subset (n : Node) : n.outerParts.flatMap own ⊆ n.own := by
  rw [own_eq]
  exact List.subset_cons_self _ _

/-- In a straight tree two awaits are met out of order only in two parts that are swapped. -/
theorem Straight.pairwise_awaitStarts {n : Node} (h : n.Straight) :
    n.awaitStarts.Pairwise fun a b => a < b ∨ SwappedIn n.own a b := by
  induction h with
  | @mk n here outer inner ih _ =>
    rw [awaitStarts_eq, List.pairwise_append, List.pairwise_flatMap]
    refine ⟨?_, ⟨?_, ?_⟩, ?_⟩
    · cases n.await? <;> simp
    · intro m hm
      refine (ih m hm).imp fun hab => hab.imp_right (SwappedIn.mono ?_)
      exact fun x hx => flatMap_own_subset n (List.mem_flatMap.2 ⟨m, hm, hx⟩)
    · rw [List.pairwise_iff_getElem]
      intro i j hi hj hij a ha b hb
      have first := List.getElem?_eq_getElem hi
      have second := List.getElem?_eq_getElem hj
      rcases here.outer hij first second with swaps | before
      · exact .inr ⟨n, by rw [own_eq]; exact List.mem_cons_self, i, j, _, _, hij, swaps, first, second, ha, hb⟩
      · exact .inl (before a ha b hb)
    · -- the operand of an await is its only part
      intro a ha b hb
      cases n with
      | await label span value =>
        obtain rfl : a = span.start := by simpa [await?] using ha
        exact .inl (here.operand _ rfl b (by simpa [outerParts, children] using hb))
      | _ => simp [await?] at ha

theorem pairwise_flatMap_awaitStarts {ns : List Node} (straight : ∀ n ∈ ns, n.Straight) (turn : ns.Pairwise Before) :
    (ns.flatMap awaitStarts).Pairwise fun a b => a < b ∨ SwappedIn (ns.flatMap own) a b := by
  rw [List.pairwise_flatMap]
  refine ⟨fun n hn => ?_, turn.imp fun before a ha b hb => .inl (before a ha b hb)⟩
  refine (straight n hn).pairwise_awaitStarts.imp fun hab => hab.imp_right (SwappedIn.mono ?_)
  exact fun x hx => List.mem_flatMap.2 ⟨n, hn, hx⟩

/-! ## Numbering -/

section Number

variable (n : Node) (k : Nat)

theorem isStatement_number : (n.number k).1.isStatement = n.isStatement := by
  cases n <;> simp [number, isStatement]

theorem isParameter_number : (n.number k).1.isParameter = n.isParameter := by
  cases n <;> simp [number, isParameter]

theorem isNamedArgument_number : (n.number k).1.isNamedArgument = n.isNamedArgument := by
  cases n
  case keyword arg value => cases arg <;> simp [number, isNamedArgument]
  all_goals simp [number, isNamedArgument]

theorem isStarred_number : Grammar.isStarred (n.number k).1 = Grammar.isStarred n := by
  cases n <;> simp [number, Grammar.isStarred]

end Number

theorem length_numberAll (ns : List Node) (k : Nat) : (numberAll ns k).1.length = ns.length := by
  induction ns generalizing k with
  | nil => rfl
  | cons n ns ih => simp [numberAll, ih]

/-- A node of a numbered list is the node at its place, numbered. -/
theorem getElem?_numberAll (ns : List Node) (k i : Nat) :
    ∃ m, (numberAll ns k).1[i]? = ns[i]?.map fun n => (n.number m).1 := by
  induction ns generalizing k i with
  | nil => exact ⟨0, rfl⟩
  | cons n ns ih =>
    cases i with
    | zero => exact ⟨k, rfl⟩
    | succ i => simpa [numberAll] using ih (n.number k).2 i

theorem getElem?_numberAll_some {ns : List Node} {k i : Nat} {n : Node} (h : ns[i]? = some n) :
    ∃ m, (numberAll ns k).1[i]? = some (n.number m).1 := by
  obtain ⟨m, hm⟩ := getElem?_numberAll ns k i
  exact ⟨m, by rw [hm, h]; rfl⟩

theorem Swaps.number {n : Node} {i j : Nat} (h : n.Swaps i j) (k : Nat) : (n.number k).1.Swaps i j := by
  cases h with
  | test => exact .test
  | @pair keys values i j key value =>
    have hlen := length_numberAll keys k
    rw [← hlen] at key ⊢
    exact .pair key value
  | @item keys parts rest i j key part =>
    have hlen := length_numberAll keys k
    rw [← hlen] at key ⊢
    exact .item key part
  | @argument n c d i j first second spread named =>
    obtain ⟨m, hm⟩ := getElem?_numberAll_some (k := n.numberBelow k) first
    obtain ⟨m', hm'⟩ := getElem?_numberAll_some (k := n.numberBelow k) second
    rw [← outerParts_number] at hm hm'
    exact .argument hm hm' (by rwa [isStarred_number]) (by rwa [isNamedArgument_number])
  | default listed param second value =>
    obtain ⟨l, hl⟩ := List.mem_iff_getElem?.1 listed
    obtain ⟨m, hm⟩ := getElem?_numberAll_some (k := k) hl
    obtain ⟨m', hm'⟩ := getElem?_numberAll_some (k := k) second
    exact .default (List.mem_of_getElem? hm) (by rwa [isParameter_number]) hm' (by rwa [isParameter_number])
  | heading before after between body second head =>
    obtain ⟨m, hm⟩ := getElem?_numberAll_some (k := k) between
    obtain ⟨m', hm'⟩ := getElem?_numberAll_some (k := k) second
    exact .heading before after hm (by rwa [isStatement_number]) hm' (by rwa [isStatement_number])

theorem flatMap_numberAll {β : Type} {f : Node → List β} {ns : List Node} (h : ∀ n ∈ ns, ∀ k, f (n.number k).1 = f n)
    (k : Nat) : (numberAll ns k).1.flatMap f = ns.flatMap f := by
  induction ns generalizing k with
  | nil => rfl
  | cons n ns ih =>
    rw [List.forall_mem_cons] at h
    simp only [numberAll, List.flatMap_cons, h.1, ih h.2]

theorem start_await?_number (n : Node) (k : Nat) :
    ((n.number k).1.await?.map fun a => a.2.1.start) = n.await?.map fun a => a.2.1.start := by
  cases n <;> simp [Node.number, await?]

theorem awaitStarts_number (n : Node) (k : Nat) : (n.number k).1.awaitStarts = n.awaitStarts := by
  induction n using inductionOnParts generalizing k with
  | step n outer _ =>
    rw [awaitStarts_eq, awaitStarts_eq n, start_await?_number, outerParts_number, flatMap_numberAll outer]

theorem Before.number {c d : Node} (h : Before c d) (k l : Nat) : Before (c.number k).1 (d.number l).1 := by
  rw [Before, awaitStarts_number, awaitStarts_number]
  exact h

theorem mem_numberAll {ns : List Node} {k : Nat} {x : Node} (h : x ∈ (numberAll ns k).1) :
    ∃ n ∈ ns, ∃ m, x = (n.number m).1 := by
  obtain ⟨i, hi⟩ := List.mem_iff_getElem?.1 h
  obtain ⟨m, hm⟩ := getElem?_numberAll ns k i
  rw [hi] at hm
  obtain ⟨n, hn, hx⟩ := Option.map_eq_some_iff.1 hm.symm
  exact ⟨n, List.mem_of_getElem? hn, m, hx.symm⟩

theorem pairwise_before_numberAll {ns : List Node} (h : ns.Pairwise Before) (k : Nat) :
    (numberAll ns k).1.Pairwise Before := by
  induction ns generalizing k with
  | nil => exact .nil
  | cons n ns ih =>
    rw [List.pairwise_cons] at h
    refine .cons (fun d hd => ?_) (ih h.2 _)
    obtain ⟨d, hmem, m, rfl⟩ := mem_numberAll hd
    exact (h.1 d hmem).number _ _

theorem PartsInOrder.number {n : Node} (h : n.PartsInOrder) (k : Nat) : (n.number k).1.PartsInOrder where
  outer := by
    intro i j c d hij hc hd
    rw [outerParts_number] at hc hd
    obtain ⟨m, hm⟩ := getElem?_numberAll n.outerParts (n.numberBelow k) i
    obtain ⟨m', hm'⟩ := getElem?_numberAll n.outerParts (n.numberBelow k) j
    rw [hc] at hm
    rw [hd] at hm'
    obtain ⟨c, first, rfl⟩ := Option.map_eq_some_iff.1 hm.symm
    obtain ⟨d, second, rfl⟩ := Option.map_eq_some_iff.1 hm'.symm
    exact (h.outer hij first second).imp (·.number k) (·.number m m')
  inner := by
    rw [innerParts_number]
    exact pairwise_before_numberAll h.inner _
  operand := by
    cases n with
    | await label span value =>
      intro a ha b hb
      obtain rfl : (k, span, (value.number (k + 1)).1) = a := by simpa [Node.number, await?] using ha
      rw [awaitStarts_number] at hb
      exact h.operand _ rfl b hb
    | _ => simp [Node.number, await?]

theorem Straight.number {n : Node} (h : n.Straight) (k : Nat) : (n.number k).1.Straight := by
  induction h generalizing k with
  | mk here _ _ outer inner =>
    refine .mk (here.number k) (fun m hm => ?_) (fun m hm => ?_)
    · rw [outerParts_number] at hm
      obtain ⟨x, hx, l, rfl⟩ := mem_numberAll hm
      exact outer x hx l
    · rw [innerParts_number] at hm
      obtain ⟨x, hx, l, rfl⟩ := mem_numberAll hm
      exact inner x hx l

/-! ## Stretches of text -/

/-- The tree is straight, and the awaits of its scope start in a stretch of the text. -/
structure Lies (lo hi : Position) (n : Node) : Prop where
  le : lo ≤ hi
  within : ∀ a ∈ n.awaitStarts, lo ≤ a ∧ a < hi
  straight : n.Straight

/-- The trees lie in stretches that follow each other. -/
def LieInTurn : Position → Position → List Node → Prop
  | lo, hi, [] => lo ≤ hi
  | lo, hi, n :: ns => ∃ mid, Lies lo mid n ∧ LieInTurn mid hi ns

section Stretch

variable {lo lo' hi hi' mid : Position} {n : Node} {ns ms : List Node}

theorem Lies.mono (h : Lies lo hi n) (hlo : lo' ≤ lo) (hhi : hi ≤ hi') : Lies lo' hi' n where
  le := hlo.trans (h.le.trans hhi)
  within a ha := ⟨hlo.trans (h.within a ha).1, (h.within a ha).2.trans_le hhi⟩
  straight := h.straight

theorem Lies.before {c d : Node} (h : Lies lo mid c) (h' : Lies mid hi d) : Before c d :=
  fun a ha b hb => (h.within a ha).2.trans_le (h'.within b hb).1

namespace LieInTurn

theorem le (h : LieInTurn lo hi ns) : lo ≤ hi := by
  induction ns generalizing lo with
  | nil => exact h
  | cons n ns ih =>
    obtain ⟨mid, first, rest⟩ := h
    exact first.le.trans (ih rest)

theorem mono (h : LieInTurn lo hi ns) (hlo : lo' ≤ lo) (hhi : hi ≤ hi') : LieInTurn lo' hi' ns := by
  induction ns generalizing lo lo' with
  | nil => exact hlo.trans (h.trans hhi)
  | cons n ns ih =>
    obtain ⟨mid, first, rest⟩ := h
    exact ⟨mid, first.mono hlo le_rfl, ih rest le_rfl⟩

theorem append (h : LieInTurn lo mid ns) (h' : LieInTurn mid hi ms) : LieInTurn lo hi (ns ++ ms) := by
  induction ns generalizing lo with
  | nil => exact h'.mono h le_rfl
  | cons n ns ih =>
    obtain ⟨next, first, rest⟩ := h
    exact ⟨next, first, ih rest⟩

theorem of_append (h : LieInTurn lo hi (ns ++ ms)) : ∃ mid, LieInTurn lo mid ns ∧ LieInTurn mid hi ms := by
  induction ns generalizing lo with
  | nil => exact ⟨lo, le_rfl, h⟩
  | cons n ns ih =>
    obtain ⟨next, first, rest⟩ := h
    obtain ⟨mid, left, right⟩ := ih rest
    exact ⟨mid, ⟨next, first, left⟩, right⟩

theorem singleton (h : Lies lo hi n) : LieInTurn lo hi [n] := ⟨hi, h, le_rfl⟩

theorem single (h : LieInTurn lo hi [n]) : Lies lo hi n := by
  obtain ⟨mid, first, rest⟩ := h
  exact first.mono le_rfl rest

theorem snoc (h : LieInTurn lo mid ns) (h' : Lies mid hi n) : LieInTurn lo hi (ns ++ [n]) := h.append (singleton h')

theorem of_mem (h : LieInTurn lo hi ns) (hn : n ∈ ns) : Lies lo hi n := by
  obtain ⟨before, after, rfl⟩ := List.append_of_mem hn
  obtain ⟨mid, left, right⟩ := h.of_append
  obtain ⟨next, first, rest⟩ := right
  exact first.mono left.le rest.le

theorem pairwise (h : LieInTurn lo hi ns) : ns.Pairwise Before := by
  induction ns generalizing lo with
  | nil => exact .nil
  | cons n ns ih =>
    obtain ⟨mid, first, rest⟩ := h
    exact .cons (fun d hd => first.before (rest.of_mem hd)) (ih rest)

end LieInTurn

/-- A node whose parts lie in a stretch, in order except those that it swaps. -/
theorem Lies.of_outer (await : n.await? = none) (inner : n.innerParts = []) (le : lo ≤ hi)
    (parts : ∀ m ∈ n.outerParts, Lies lo hi m)
    (outer : ∀ {i j : Nat} {c d : Node}, i < j → n.outerParts[i]? = some c → n.outerParts[j]? = some d →
      n.Swaps i j ∨ Before c d) : Lies lo hi n where
  le := le
  within a ha := by
    rw [awaitStarts_of_not_await await] at ha
    obtain ⟨m, hm, ha⟩ := List.mem_flatMap.1 ha
    exact (parts m hm).within a ha
  straight := by
    refine .mk ⟨outer, by rw [inner]; exact .nil, by simp [await]⟩ (fun m hm => (parts m hm).straight) ?_
    simp [inner]

/-- A node whose parts are visited as they are written. -/
theorem Lies.of_parts (await : n.await? = none) (inner : n.innerParts = []) (h : LieInTurn lo hi n.outerParts) :
    Lies lo hi n := by
  refine .of_outer await inner h.le (fun m hm => h.of_mem hm) fun hij first second => .inr ?_
  obtain ⟨hi, rfl⟩ := List.getElem?_eq_some_iff.1 first
  obtain ⟨hj, rfl⟩ := List.getElem?_eq_some_iff.1 second
  exact List.pairwise_iff_getElem.1 h.pairwise _ _ hi hj hij

theorem Lies.leaf (await : n.await? = none) (inner : n.innerParts = []) (outer : n.outerParts = []) : Lies lo lo n :=
  .of_parts await inner (by rw [outer]; exact le_refl lo)

theorem Lies.await {label : Nat} {span : Span} {value : Node} (start : lo ≤ span.start) (stop : span.start < mid)
    (h : Lies mid hi value) : Lies lo hi (.await label span value) where
  le := start.trans (stop.le.trans h.le)
  within a ha := by
    rw [awaitStarts_eq] at ha
    simp only [await?, outerParts, children, Option.map_some, Option.toList_some, List.singleton_append,
      List.flatMap_singleton, List.mem_cons] at ha
    rcases ha with rfl | ha
    · exact ⟨start, stop.trans_le h.le⟩
    · exact ⟨start.trans (stop.le.trans (h.within a ha).1), (h.within a ha).2⟩
  straight := by
    refine .mk ⟨?_, .nil, ?_⟩ ?_ (fun m hm => by cases hm)
    · intro i j c d hij first second
      have := (List.getElem?_eq_some_iff.1 second).1
      simp only [outerParts, children, List.length_singleton] at this
      omega
    · intro a ha b hb
      obtain rfl : (label, span, value) = a := by simpa [await?] using ha
      exact stop.trans_le (h.within b hb).1
    · simpa [outerParts, children] using h.straight

/-- The body of an async function is written after the rest of it. -/
theorem Lies.asyncDef {label : Nat} {span : Span} {name : String} {decorators body : List Node}
    {parameters returns : Node} (head : LieInTurn lo mid (decorators ++ [parameters, returns]))
    (h : LieInTurn mid hi body) :
    Lies lo hi (.asyncDef label span name decorators parameters returns body) where
  le := head.le.trans h.le
  within a ha := by
    rw [awaitStarts_of_not_await rfl] at ha
    obtain ⟨m, hm, ha⟩ := List.mem_flatMap.1 ha
    exact ((head.of_mem hm).mono le_rfl h.le).within a ha
  straight := by
    refine .mk ⟨?_, h.pairwise, nofun⟩ (fun m hm => (head.of_mem hm).straight) fun m hm => (h.of_mem hm).straight
    intro i j c d hij first second
    obtain ⟨hi, rfl⟩ := List.getElem?_eq_some_iff.1 first
    obtain ⟨hj, rfl⟩ := List.getElem?_eq_some_iff.1 second
    exact .inr (List.pairwise_iff_getElem.1 head.pairwise _ _ hi hj hij)

/-! ## Nodes that swap parts -/

/-- Two places in two lists that are put together. -/
theorem getElem?_append_pair {α : Type} {xs ys : List α} {c d : α} {i j : Nat} (hij : i < j)
    (first : (xs ++ ys)[i]? = some c) (second : (xs ++ ys)[j]? = some d) :
    (xs[i]? = some c ∧ xs[j]? = some d) ∨
    (xs[i]? = some c ∧ xs.length ≤ j ∧ ys[j - xs.length]? = some d) ∨
    (xs.length ≤ i ∧ xs.length ≤ j ∧ ys[i - xs.length]? = some c ∧ ys[j - xs.length]? = some d) := by
  rw [List.getElem?_append] at first second
  split at first <;> split at second
  · exact .inl ⟨first, second⟩
  · exact .inr (.inl ⟨first, by omega, second⟩)
  · omega
  · exact .inr (.inr ⟨by omega, by omega, first, second⟩)

theorem rel_of_pairwise {α : Type} {R : α → α → Prop} {xs : List α} (h : xs.Pairwise R) {c d : α} {i j : Nat}
    (hij : i < j) (first : xs[i]? = some c) (second : xs[j]? = some d) : R c d := by
  obtain ⟨hi, rfl⟩ := List.getElem?_eq_some_iff.1 first
  obtain ⟨hj, rfl⟩ := List.getElem?_eq_some_iff.1 second
  exact List.pairwise_iff_getElem.1 h i j hi hj hij

/-- The test of a conditional expression is written second and visited first. -/
theorem Lies.conditional {test body other : Node} (h : LieInTurn lo hi [body, test, other]) :
    Lies lo hi (.conditional test body other) := by
  have each : ∀ m ∈ [test, body, other], Lies lo hi m := fun m hm => h.of_mem (by simp at hm ⊢; tauto)
  refine .of_outer rfl rfl h.le each ?_
  intro i j c d hij first second
  have turn := h.pairwise
  simp only [List.pairwise_cons, List.mem_cons, List.not_mem_nil, or_false, forall_eq_or_imp, forall_eq] at turn
  simp only [outerParts, children] at first second
  have hj : j < 3 := (List.getElem?_eq_some_iff.1 second).1
  obtain ⟨rfl, rfl⟩ | ⟨rfl, rfl⟩ | ⟨rfl, rfl⟩ : i = 0 ∧ j = 1 ∨ i = 0 ∧ j = 2 ∨ i = 1 ∧ j = 2 := by omega
  · exact .inl .test
  · cases first
    cases second
    exact .inr turn.2.1
  · cases first
    cases second
    exact .inr turn.1.2

/-- The pairs of a display, or the items of a mapping pattern. -/
theorem Lies.of_pairs {items : List (Node × Node)} (await : n.await? = none) (inner : n.innerParts = [])
    (parts : n.outerParts = items.map Prod.fst ++ items.map Prod.snd)
    (swaps : ∀ i j, i < items.length → j < i → n.Swaps i (items.length + j))
    (h : LieInTurn lo hi (items.flatMap fun p => [p.1, p.2])) : Lies lo hi n := by
  obtain ⟨within, across⟩ := List.pairwise_flatMap.1 h.pairwise
  refine .of_outer await inner h.le (fun m hm => h.of_mem ?_) ?_
  · rw [parts, List.mem_append, List.mem_map, List.mem_map] at hm
    rcases hm with ⟨p, hp, rfl⟩ | ⟨p, hp, rfl⟩ <;> exact List.mem_flatMap.2 ⟨p, hp, by simp⟩
  · intro i j c d hij first second
    rw [parts] at first second
    have hlen : (items.map Prod.fst).length = items.length := List.length_map _
    rcases getElem?_append_pair hij first second with ⟨first, second⟩ | ⟨first, hj, second⟩ | ⟨hi, hj, first, second⟩
    all_goals
      simp only [List.getElem?_map, Option.map_eq_some_iff] at first second
      obtain ⟨p, hp, rfl⟩ := first
      obtain ⟨q, hq, rfl⟩ := second
    · exact .inr (rel_of_pairwise across hij hp hq _ (by simp) _ (by simp))
    · rw [hlen] at hj hq
      rcases Nat.lt_trichotomy i (j - items.length) with hlt | heq | hgt
      · exact .inr (rel_of_pairwise across hlt hp hq _ (by simp) _ (by simp))
      · rw [← heq, hp] at hq
        cases hq
        exact .inr (List.rel_of_pairwise_cons (within p (List.mem_of_getElem? hp)) (by simp))
      · refine .inl ?_
        have := swaps i (j - items.length) (List.getElem?_eq_some_iff.1 hp).1 hgt
        rwa [Nat.add_sub_cancel' hj] at this
    · exact .inr (rel_of_pairwise across (by omega) hp hq _ (by simp) _ (by simp))

/-- Arguments lie in a stretch: the positional ones are in order, and so are the others. Of a positional argument and
another one, only a starred and a named one may be swapped. -/
structure ArgumentsLie (lo hi : Position) (args keywords : List Node) : Prop where
  positional : LieInTurn lo hi args
  others : LieInTurn lo hi keywords
  mixed : ∀ c ∈ args, ∀ d ∈ keywords, Grammar.isStarred c = true ∧ d.isNamedArgument = true ∨ Before c d

theorem ArgumentsLie.of_mem {args keywords : List Node} (h : ArgumentsLie lo hi args keywords)
    (hn : n ∈ args ++ keywords) : Lies lo hi n := by
  rcases List.mem_append.1 hn with hn | hn
  · exact h.positional.of_mem hn
  · exact h.others.of_mem hn

theorem ArgumentsLie.mono {args keywords : List Node} (h : ArgumentsLie lo hi args keywords) (hlo : lo' ≤ lo)
    (hhi : hi ≤ hi') : ArgumentsLie lo' hi' args keywords :=
  ⟨h.positional.mono hlo hhi, h.others.mono hlo hhi, h.mixed⟩

theorem ArgumentsLie.outer {args keywords : List Node} (h : ArgumentsLie lo hi args keywords) {i j : Nat} {c d : Node}
    (hij : i < j) (first : (args ++ keywords)[i]? = some c) (second : (args ++ keywords)[j]? = some d) :
    Grammar.isStarred c = true ∧ d.isNamedArgument = true ∨ Before c d := by
  rcases getElem?_append_pair hij first second with ⟨first, second⟩ | ⟨first, -, second⟩ | ⟨hi, hj, first, second⟩
  · exact .inr (rel_of_pairwise h.positional.pairwise hij first second)
  · exact h.mixed c (List.mem_of_getElem? first) d (List.mem_of_getElem? second)
  · exact .inr (rel_of_pairwise h.others.pairwise (by omega) first second)

theorem Lies.call {func : Node} {args keywords : List Node} (hfunc : Lies lo mid func)
    (h : ArgumentsLie mid hi args keywords) : Lies lo hi (.call func args keywords) := by
  have hle : mid ≤ hi := h.positional.le
  refine .of_outer rfl rfl (hfunc.le.trans hle) ?_ ?_
  · intro m hm
    have hm : m = func ∨ m ∈ args ++ keywords := by simpa [outerParts, children] using hm
    rcases hm with rfl | hm
    · exact hfunc.mono le_rfl hle
    · exact (h.of_mem hm).mono hfunc.le le_rfl
  · intro i j c d hij first second
    cases j with
    | zero => omega
    | succ j =>
      have hd : (args ++ keywords)[j]? = some d := by simpa [outerParts, children] using second
      cases i with
      | zero =>
        cases first
        exact .inr (hfunc.before (h.of_mem (List.mem_of_getElem? hd)))
      | succ i =>
        have hc : (args ++ keywords)[i]? = some c := by simpa [outerParts, children] using first
        exact (h.outer (by omega) hc hd).imp_left fun hswap => .argument first second hswap.1 hswap.2

/-- A class, or a function that is not async: what stands in front of the body, the body, and what is written before
the body and visited after it. -/
theorem Lies.definition {args keywords body heading : List Node} (h : ArgumentsLie lo mid args keywords)
    (hheading : LieInTurn lo mid heading) (hbody : LieInTurn mid hi body) (some : body ≠ [])
    (statements : ∀ s ∈ body, s.isStatement = true) (expressions : ∀ d ∈ heading, d.isStatement = false) :
    Lies lo hi (.compound (args ++ keywords ++ body ++ heading)) := by
  refine .of_outer rfl rfl (h.positional.le.trans hbody.le) ?_ ?_
  · intro m hm
    have hm : (m ∈ args ++ keywords ∨ m ∈ body) ∨ m ∈ heading := by simpa [outerParts, children, or_assoc] using hm
    rcases hm with (hm | hm) | hm
    · exact (h.of_mem hm).mono le_rfl hbody.le
    · exact (hbody.of_mem hm).mono h.positional.le le_rfl
    · exact (hheading.of_mem hm).mono le_rfl hbody.le
  · intro i j c d hij first second
    rcases getElem?_append_pair hij first second with ⟨hc, hd⟩ | ⟨hc, hj, hd⟩ | ⟨hi, hj, hc, hd⟩
    · rcases getElem?_append_pair hij hc hd with ⟨hc, hd⟩ | ⟨hc, -, hd⟩ | ⟨hi, hj, hc, hd⟩
      · exact (h.outer hij hc hd).imp_left fun hswap => .argument first second hswap.1 hswap.2
      · exact .inr ((h.of_mem (List.mem_of_getElem? hc)).before (hbody.of_mem (List.mem_of_getElem? hd)))
      · exact .inr (rel_of_pairwise hbody.pairwise (by omega) hc hd)
    · -- the last statement of the body stands between the two
      refine .inl (.heading (k := (args ++ keywords ++ body).length - 1) (s := body.getLast some) ?_ ?_ ?_
        (statements _ (List.getLast_mem some)) second (expressions d (List.mem_of_getElem? hd)))
      · have := (List.getElem?_eq_some_iff.1 hc).1
        omega
      · have := List.length_pos_of_ne_nil some
        simp only [List.length_append] at hj ⊢
        omega
      · rw [List.getElem?_append_left, ← List.getLast?_eq_getElem?, List.getLast?_append_of_ne_nil _ some,
          List.getLast?_eq_some_getLast some]
        have := List.length_pos_of_ne_nil some
        simp only [List.length_append]
        omega
    · exact .inr (rel_of_pairwise hheading.pairwise (by omega) hc hd)

/-- Parameters lie in a stretch in their order. A default value is somewhere among them, but before the parameter for
the other arguments if it belongs to a parameter after the star. -/
structure ParametersLie (lo hi : Position) (p : Grammar.Parameters) : Prop where
  names : LieInTurn lo hi (p.positional.reverse ++ p.rest ++ p.named.reverse ++ p.keywords)
  areNames : ∀ x ∈ p.positional.reverse ++ p.rest ++ p.named.reverse ++ p.keywords, x.isParameter = true
  values : ∀ x ∈ p.namedDefaults.reverse ++ p.defaults.reverse, Lies lo hi x ∧ x.isParameter = false
  last : ∀ c ∈ p.namedDefaults.reverse, ∀ d ∈ p.keywords, Before c d
  named : p.namedDefaults ≠ [] → p.named ≠ []
  positional : p.defaults ≠ [] → p.positional ≠ []

namespace ParametersLie

variable {p : Grammar.Parameters}

/-- Only a default value comes after something that may be written behind it. -/
theorem pairwise (h : ParametersLie lo hi p) :
    p.node.outerParts.Pairwise fun c d => d.isParameter = true → Before c d := by
  have value : ∀ {x}, x ∈ p.namedDefaults.reverse ++ p.defaults.reverse → x.isParameter ≠ true := fun hx => by
    simp [(h.values _ hx).2]
  obtain ⟨before, after, across⟩ := List.pairwise_append.1 h.names.pairwise
  refine List.pairwise_append.2 ⟨List.pairwise_append.2 ⟨List.pairwise_append.2 ⟨?_, ?_, ?_⟩, ?_, ?_⟩, ?_, ?_⟩
  · exact before.imp fun {c d} (hcd : Before c d) (_ : d.isParameter = true) => hcd
  · exact List.pairwise_of_forall_mem_list fun c _ d hd hname =>
      absurd hname (value (List.mem_append_left _ hd))
  · exact fun c _ d hd hname => absurd hname (value (List.mem_append_left _ hd))
  · exact after.imp fun {c d} (hcd : Before c d) (_ : d.isParameter = true) => hcd
  · intro c hc d hd _
    rcases List.mem_append.1 hc with hc | hc
    · exact across c hc d hd
    · exact h.last c hc d hd
  · exact List.pairwise_of_forall_mem_list fun c _ d hd hname =>
      absurd hname (value (List.mem_append_right _ hd))
  · exact fun c _ d hd hname => absurd hname (value (List.mem_append_right _ hd))

theorem mem_outerParts (h : ParametersLie lo hi p) {m : Node} (hm : m ∈ p.node.outerParts) :
    Lies lo hi m ∧ (m.isParameter = false → m ∈ p.namedDefaults.reverse ++ p.defaults.reverse) := by
  have hm : m ∈ p.positional.reverse ++ p.rest ++ p.named.reverse ++ p.keywords ∨
      m ∈ p.namedDefaults.reverse ++ p.defaults.reverse := by
    simp only [Grammar.Parameters.node, outerParts, children, List.mem_append] at hm ⊢
    tauto
  rcases hm with hm | hm
  · refine ⟨h.names.of_mem hm, fun hvalue => ?_⟩
    simp [h.areNames m hm] at hvalue
  · exact ⟨(h.values m hm).1, fun _ => hm⟩

/-- A default value belongs to a parameter. -/
theorem exists_parameter (h : ParametersLie lo hi p) {d : Node}
    (hd : d ∈ p.namedDefaults.reverse ++ p.defaults.reverse) :
    ∃ x ∈ p.positional.reverse ++ p.rest ++ p.named.reverse, x.isParameter = true := by
  have listed : ∃ x, x ∈ p.positional.reverse ++ p.rest ++ p.named.reverse := by
    rcases List.mem_append.1 hd with hd | hd
    · have some : p.namedDefaults ≠ [] := List.ne_nil_of_mem (List.mem_reverse.1 hd)
      obtain ⟨x, xs, hx⟩ := List.exists_cons_of_ne_nil (h.named some)
      exact ⟨x, by simp [hx]⟩
    · have some : p.defaults ≠ [] := List.ne_nil_of_mem (List.mem_reverse.1 hd)
      obtain ⟨x, xs, hx⟩ := List.exists_cons_of_ne_nil (h.positional some)
      exact ⟨x, by simp [hx]⟩
  obtain ⟨x, hx⟩ := listed
  exact ⟨x, hx, h.areNames x (List.mem_append_left _ hx)⟩

end ParametersLie

theorem Lies.parameters {p : Grammar.Parameters} (h : ParametersLie lo hi p) : Lies lo hi p.node := by
  refine .of_outer rfl rfl h.names.le (fun m hm => (h.mem_outerParts hm).1) ?_
  intro i j c d hij first second
  cases hd : d.isParameter with
  | true => exact .inr (rel_of_pairwise h.pairwise hij first second hd)
  | false =>
    obtain ⟨x, hx, param⟩ := h.exists_parameter ((h.mem_outerParts (List.mem_of_getElem? second)).2 hd)
    simp only [List.mem_append] at hx
    exact .inl (.default (p := x) (by simp only [List.mem_append]; tauto) param second hd)

end Stretch

end Node

end AwaitLint
