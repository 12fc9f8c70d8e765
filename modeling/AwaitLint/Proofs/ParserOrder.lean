import AwaitLint.Proofs.TokenOrder

/-! # Parsers whose trees lie in the text in turn

A parser takes tokens from the front, so the trees that it returns lie between the place where it started and the place
that it has got to. `After` follows a parser through its steps: it keeps the list of the trees read so far.
-/

namespace AwaitLint.Grammar.Parser

open AwaitLint.Node (Lies LieInTurn)

variable {α β σ : Type}

/-- From tokens ahead of `lo` the parser gets to tokens ahead of a position at which `Q` holds of its result. -/
def Yields (lo : Position) (p : Parser α) (Q : Position → α → Prop) : Prop :=
  ∀ ⦃top : Position⦄ ⦃s : Stream⦄ ⦃a : α⦄ ⦃s' : Stream⦄, p s = some (a, s') → Ahead top lo s.tokens →
    ∃ hi, lo ≤ hi ∧ Ahead top hi s'.tokens ∧ Q hi a

/-- The same if `t` is the next token. -/
def YieldsAt (t : Token) (lo : Position) (p : Parser α) (Q : Position → α → Prop) : Prop :=
  ∀ ⦃top : Position⦄ ⦃s : Stream⦄ ⦃a : α⦄ ⦃s' : Stream⦄ ⦃rest : List Token⦄, p s = some (a, s') →
    s.tokens = t :: rest → Ahead top lo s.tokens → ∃ hi, lo ≤ hi ∧ Ahead top hi s'.tokens ∧ Q hi a

theorem bind_eq_some {p : Parser α} {f : α → Parser β} {s s' : Stream} {b : β} (h : (p >>= f) s = some (b, s')) :
    ∃ a t, p s = some (a, t) ∧ f a t = some (b, s') := by
  change Parser.bind p f s = some (b, s') at h
  unfold Parser.bind at h
  split at h
  · next a t hp => exact ⟨a, t, hp, h⟩
  · cases h

theorem bind_assoc {γ : Type} (p : Parser α) (f : α → Parser β) (g : β → Parser γ) :
    p >>= f >>= g = p >>= fun a => f a >>= g := by
  funext s
  change Parser.bind (Parser.bind p f) g s = Parser.bind p (fun a => Parser.bind (f a) g) s
  unfold Parser.bind
  cases p s <;> rfl

/-- The first step of a loop. -/
theorem loop_eq_some {step : σ → Parser (σ ⊕ α)} {x : σ} {s s' : Stream} {a : α} (h : loop step x s = some (a, s')) :
    ∃ fuel r t, step x s = some (r, t) ∧ Sum.elim (fun y => iterate step fuel y) (fun b => pure b) r t = some (a, s') := by
  unfold loop at h
  cases hbudget : s.budget with
  | zero =>
    rw [hbudget] at h
    cases h
  | succ fuel =>
    rw [hbudget, iterate] at h
    obtain ⟨r, t, hstep, hrest⟩ := bind_eq_some h
    refine ⟨fuel, r, t, hstep, ?_⟩
    cases r <;> exact hrest

theorem accept_eq_some {kind : TokenKind} {s s' : Stream} {b : Bool} (h : accept kind s = some (b, s')) :
    ∃ t rest, s.tokens = t :: rest ∧
      (b = true ∧ t.kind = kind ∧ s'.tokens = rest ∨ b = false ∧ t.kind ≠ kind ∧ s'.tokens = s.tokens) := by
  unfold accept nextIs at h
  rw [bind_assoc] at h
  obtain ⟨t, s₁, hpeek, h⟩ := bind_eq_some h
  unfold peek at hpeek
  split at hpeek
  · cases hpeek
  · next t' rest hs =>
    cases hpeek
    refine ⟨t, rest, hs, ?_⟩
    change (if (t.kind == kind) = true then _ else _ : Parser Bool) _ = _ at h
    split at h
    · next hkind =>
      obtain ⟨u, s₂, hadvance, hpure⟩ := bind_eq_some h
      simp only [advance, hs] at hadvance
      cases hadvance
      cases hpure
      exact .inl ⟨rfl, eq_of_beq hkind, rfl⟩
    · next hkind =>
      cases h
      exact .inr ⟨rfl, fun heq => hkind (beq_iff_eq.2 heq), rfl⟩

theorem expect_eq_some {kind : TokenKind} {s s' : Stream} {u : Unit} (h : expect kind s = some (u, s')) :
    ∃ t rest, s.tokens = t :: rest ∧ t.kind = kind ∧ s'.tokens = rest := by
  obtain ⟨taken, s₁, haccept, hrest⟩ := bind_eq_some h
  obtain ⟨t, rest, htokens, ⟨rfl, hkind, hnext⟩ | ⟨rfl, -⟩⟩ := accept_eq_some haccept
  · cases hrest
    exact ⟨t, rest, htokens, hkind, hnext⟩
  · cases hrest

namespace Yields

variable {lo : Position} {p q : Parser α} {f : α → Parser β} {P : Position → α → Prop} {Q : Position → β → Prop}

theorem pure {a : α} (h : P lo a) : Yields lo (pure a) P := by
  intro top s b s' heq ahead
  cases heq
  exact ⟨lo, le_rfl, ahead, h⟩

theorem bind (h : Yields lo p P) (h' : ∀ mid a, lo ≤ mid → P mid a → Yields mid (f a) Q) : Yields lo (p >>= f) Q := by
  intro top s b s' heq ahead
  obtain ⟨a, t, hp, hf⟩ := bind_eq_some heq
  obtain ⟨mid, hmid, ahead, ha⟩ := h hp ahead
  obtain ⟨hi, hhi, ahead, hb⟩ := h' mid a hmid ha hf ahead
  exact ⟨hi, hmid.trans hhi, ahead, hb⟩

theorem imp {P' : Position → α → Prop} (h : Yields lo p P) (h' : ∀ hi a, lo ≤ hi → P hi a → P' hi a) :
    Yields lo p P' := by
  intro top s a s' heq ahead
  obtain ⟨hi, hhi, ahead, ha⟩ := h heq ahead
  exact ⟨hi, hhi, ahead, h' hi a hhi ha⟩

theorem fail : Yields lo (Parser.fail : Parser α) P := by
  intro top s a s' heq
  cases heq

theorem spanFrom (start : Mark) : Yields lo (spanFrom start) fun _ span => span.start = start.position := by
  intro top s a s' heq ahead
  cases heq
  exact ⟨lo, le_rfl, ahead, rfl⟩

theorem orElse (h : Yields lo p P) (h' : Yields lo q P) : Yields lo (orElse p q) P := by
  intro top s a s' heq ahead
  unfold Parser.orElse at heq
  split at heq
  · next hp => exact h (hp.trans heq) ahead
  · exact h' heq ahead

/-- A loop keeps what each of its steps keeps. -/
theorem iterate {step : σ → Parser (σ ⊕ β)} {I : Position → σ → Prop} {x : σ} (fuel : Nat) (start : I lo x)
    (h : ∀ mid y, lo ≤ mid → I mid y → Yields mid (step y) fun hi => Sum.elim (I hi) (Q hi)) :
    Yields lo (iterate step fuel x) Q := by
  induction fuel generalizing lo x with
  | zero => exact .fail
  | succ fuel ih =>
    refine (h lo x le_rfl start).bind fun mid r hmid hr => ?_
    cases r with
    | inl y => exact ih hr fun next z hnext => h next z (hmid.trans hnext)
    | inr b => exact .pure hr

theorem loop {step : σ → Parser (σ ⊕ β)} {I : Position → σ → Prop} {x : σ} (start : I lo x)
    (h : ∀ mid y, lo ≤ mid → I mid y → Yields mid (step y) fun hi => Sum.elim (I hi) (Q hi)) :
    Yields lo (Parser.loop step x) Q :=
  fun _ s _ _ heq ahead => iterate s.budget start h heq ahead

/-- A fold keeps what each of its steps keeps; `I` is about the items that are left. -/
theorem foldlM {step : β → σ → Parser β} {I : Position → List σ → β → Prop} {xs : List σ} {b : β} (start : I lo xs b)
    (h : ∀ mid x xs b, lo ≤ mid → I mid (x :: xs) b → Yields mid (step b x) fun hi => I hi xs) :
    Yields lo (xs.foldlM step b) fun hi => I hi [] := by
  induction xs generalizing lo b with
  | nil => exact .pure start
  | cons x xs ih =>
    rw [List.foldlM_cons]
    refine (h lo x xs b le_rfl start).bind fun mid b' hmid hb' => ih hb' ?_
    exact fun next y ys c hnext => h next y ys c (hmid.trans hnext)

end Yields

namespace YieldsAt

variable {lo : Position} {t : Token} {p : Parser α} {f : Token → Parser α} {g : Unit → Parser α}
  {Q : Position → α → Prop}

theorem of_yields (h : Yields lo p Q) : YieldsAt t lo p Q :=
  fun _ _ _ _ _ heq _ ahead => h heq ahead

theorem peek (h : YieldsAt t lo (f t) Q) : YieldsAt t lo (peek >>= f) Q := by
  intro top s a s' rest heq hs ahead
  obtain ⟨t', s₁, hp, hf⟩ := bind_eq_some heq
  rw [Parser.peek, hs] at hp
  cases hp
  exact h hf hs ahead

/-- Past a token that has a text. -/
theorem advance (text : hasText t.kind = true)
    (h : lo ≤ t.start.position → t.start.position < t.stop.position →
      (∀ cs, t.kind = .string cs → t.stop = t.start.advance cs) → Yields t.stop.position (g ()) Q) :
    YieldsAt t lo (advance >>= g) Q := by
  intro top s a s' rest heq hs ahead
  obtain ⟨u, s₁, hp, hf⟩ := bind_eq_some heq
  rw [Parser.advance, hs] at hp
  cases hp
  rw [hs] at ahead
  cases ahead with
  | text _ start stop string later =>
    obtain ⟨hi, hhi, ahead, ha⟩ := h start stop string hf later
    exact ⟨hi, start.trans (stop.le.trans hhi), ahead, ha⟩
  | indent kind => simp [kind, hasText] at text
  | other kind => rcases kind with kind | kind | kind <;> simp [kind, hasText] at text

end YieldsAt

/-- A parser that looks at the next token first. -/
theorem Yields.peek {lo : Position} {f : Token → Parser α} {Q : Position → α → Prop}
    (h : ∀ t, YieldsAt t lo (f t) Q) : Yields lo (peek >>= f) Q := by
  intro top s a s' heq ahead
  obtain ⟨t, s₁, hp, hf⟩ := bind_eq_some heq
  unfold Parser.peek at hp
  split at hp
  · cases hp
  · next t' rest hs =>
    cases hp
    exact h t hf hs ahead

/-! ## Results that hold trees -/

/-- The trees of the result lie in turn between where the parser starts and where it gets to. -/
def Brings (parts : α → List Node) (K : α → Prop) (p : Parser α) : Prop :=
  ∀ lo, Yields lo p fun hi a => LieInTurn lo hi (parts a) ∧ K a

/-- A parser whose result holds no tree. -/
abbrev Moves (p : Parser α) : Prop := Brings (fun _ => []) (fun _ => True) p

/-- A parser for one tree. -/
abbrev Reads (K : Node → Prop) (p : Parser Node) : Prop := Brings (fun n => [n]) K p

/-- A parser for several trees. -/
abbrev ReadsAll (K : Node → Prop) (p : Parser (List Node)) : Prop := Brings (fun ns => ns) (fun ns => ∀ n ∈ ns, K n) p

/-- What `p` does when trees have been read from `lo` on. -/
def After (lo : Position) (ns : List Node) (p : Parser α) (Q : Position → α → Prop) : Prop :=
  ∀ ⦃mid : Position⦄, LieInTurn lo mid ns → Yields mid p Q

theorem Brings.of_after {parts : α → List Node} {K : α → Prop} {p : Parser α}
    (h : ∀ lo, After lo [] p fun hi a => LieInTurn lo hi (parts a) ∧ K a) : Brings parts K p :=
  fun lo => h lo (le_refl lo)

theorem Yields.of_after {lo : Position} {p : Parser α} {Q : Position → α → Prop} (h : After lo [] p Q) :
    Yields lo p Q :=
  h (le_refl lo)

theorem Yields.skip {lo : Position} {p : Parser α} {f : α → Parser β} {Q : Position → β → Prop} (hp : Moves p)
    (h : ∀ mid a, lo ≤ mid → Yields mid (f a) Q) : Yields lo (p >>= f) Q :=
  (hp lo).bind fun mid a hmid _ => h mid a hmid

namespace After

variable {lo : Position} {ns : List Node} {p : Parser α} {f : α → Parser β} {Q : Position → β → Prop}
  {P : Position → α → Prop} {parts : α → List Node} {K : α → Prop}

theorem bring (hp : Brings parts K p) (h : ∀ a, K a → After lo (ns ++ parts a) (f a) Q) : After lo ns (p >>= f) Q := by
  intro mid turn
  refine (hp mid).bind fun hi a _ ha => ?_
  exact h a ha.2 (turn.append ha.1)

/-- Several trees at once. -/
theorem gather {p : Parser (List Node)} {f : List Node → Parser β}
    (hp : ∀ lo, After lo [] p fun hi ms => LieInTurn lo hi ms) (h : ∀ ms, After lo (ns ++ ms) (f ms) Q) :
    After lo ns (p >>= f) Q := by
  intro mid turn
  refine (hp mid (le_refl mid)).bind fun hi ms _ hms => ?_
  exact h ms (turn.append hms)

theorem skip (hp : Moves p) (h : ∀ a, After lo ns (f a) Q) : After lo ns (p >>= f) Q := by
  intro mid turn
  refine (hp mid).bind fun hi a hle _ => ?_
  exact h a (turn.mono le_rfl hle)

theorem last (hp : Brings parts K p) (h : ∀ hi a, K a → LieInTurn lo hi (ns ++ parts a) → P hi a) :
    After lo ns p P := by
  intro mid turn
  exact (hp mid).imp fun hi a _ ha => h hi a ha.2 (turn.append ha.1)

theorem pure {a : α} (h : ∀ hi, LieInTurn lo hi ns → P hi a) : After lo ns (pure a) P :=
  fun _ turn => .pure (h _ turn)

theorem fail : After lo ns (Parser.fail : Parser α) P := fun _ _ => .fail

theorem ite {c : Prop} [Decidable c] {q : Parser α} (h : c → After lo ns p P) (h' : ¬c → After lo ns q P) :
    After lo ns (if c then p else q) P := by
  split
  · next hc => exact h hc
  · next hc => exact h' hc

/-- A step that may be left out. -/
theorem optional {c : Prop} [Decidable c] {p : Parser Unit} {f : Unit → Parser β} (hp : Moves p)
    (h : ∀ u, After lo ns (f u) Q) : After lo ns (if c then p >>= f else f ()) Q :=
  .ite (fun _ => .skip hp h) fun _ => h ()

/-- A tree without parts lies anywhere. -/
theorem leaf (n : Node) (await : n.await? = none) (inner : n.innerParts = []) (outer : n.outerParts = [])
    (h : After lo (ns ++ [n]) p P) : After lo ns p P :=
  fun _ turn => h (turn.snoc (.leaf await inner outer))

/-- The trees that the state of a loop holds lie in turn after each step. -/
theorem loop {step : σ → Parser (σ ⊕ α)} (held : σ → List Node) {I : σ → Prop} {x : σ} (start : held x = ns) (inv : I x)
    (h : ∀ y, I y → After lo (held y) (step y) fun hi => Sum.elim (fun z => LieInTurn lo hi (held z) ∧ I z) (P hi)) :
    After lo ns (Parser.loop step x) P := by
  intro mid turn
  refine .loop (I := fun hi z => LieInTurn lo hi (held z) ∧ I z) ⟨start ▸ turn, inv⟩ ?_
  exact fun _ y _ hy => h y hy.2 hy.1

end After

theorem Brings.imp {parts : α → List Node} {K K' : α → Prop} {p : Parser α} (h : Brings parts K p)
    (h' : ∀ a, K a → K' a) : Brings parts K' p :=
  fun lo => (h lo).imp fun _ a _ ha => ⟨ha.1, h' a ha.2⟩

/-- A step of a loop goes on. -/
theorem After.next {lo : Position} {ns : List Node} {held : σ → List Node} {I : σ → Prop} {P : Position → α → Prop}
    {z : σ} (hz : held z = ns) (inv : I z) :
    After lo ns (Pure.pure (.inl z) : Parser (σ ⊕ α)) fun hi =>
      Sum.elim (fun z => LieInTurn lo hi (held z) ∧ I z) (P hi) :=
  .pure fun _ turn => ⟨hz ▸ turn, inv⟩

/-! ## Parsers that read no tree -/

namespace Moves

variable {p : Parser α} {f : α → Parser β} {a : α}

theorem of_yields (h : ∀ lo, Yields lo p fun _ _ => True) : Moves p :=
  fun lo => (h lo).imp fun _ _ hle _ => ⟨hle, trivial⟩

theorem pure : Moves (Pure.pure a) := of_yields fun _ => .pure trivial

theorem bind (hp : Moves p) (hf : ∀ a, Moves (f a)) : Moves (p >>= f) :=
  .of_after fun _ => .skip hp fun a => .last (hf a) fun _ _ _ turn => ⟨turn, trivial⟩

theorem fail : Moves (Parser.fail : Parser α) := .of_after fun _ => .fail

theorem ite {c : Prop} [Decidable c] {q : Parser α} (hp : Moves p) (hq : Moves q) : Moves (if c then p else q) := by
  split
  · exact hp
  · exact hq

theorem loop {step : σ → Parser (σ ⊕ α)} (h : ∀ y, Moves (step y)) (x : σ) : Moves (Parser.loop step x) := by
  refine of_yields fun lo => .loop (I := fun _ _ => True) trivial fun mid y _ _ => ?_
  exact (h y mid).imp fun _ r _ _ => by cases r <;> trivial

theorem peek : Moves peek := by
  refine of_yields fun lo top s a s' heq ahead => ?_
  unfold Parser.peek at heq
  split at heq
  · cases heq
  · cases heq
    exact ⟨lo, le_rfl, ahead, trivial⟩

theorem peekSecond : Moves peekSecond := by
  refine of_yields fun lo top s a s' heq ahead => ?_
  unfold Parser.peekSecond at heq
  split at heq
  · cases heq
    exact ⟨lo, le_rfl, ahead, trivial⟩
  · cases heq

theorem advance : Moves advance := by
  refine of_yields fun lo top s a s' heq ahead => ?_
  unfold Parser.advance at heq
  split at heq
  · cases heq
  · next t rest hs =>
    cases heq
    rw [hs] at ahead
    cases ahead with
    | text _ start stop _ later => exact ⟨_, start.trans stop.le, later, trivial⟩
    | indent _ _ later => exact ⟨lo, le_rfl, later, trivial⟩
    | other _ later => exact ⟨lo, le_rfl, later, trivial⟩

theorem peekKind : Moves peekKind := peek.bind fun _ => pure

theorem nextIs (kind : TokenKind) : Moves (nextIs kind) := peek.bind fun _ => pure

theorem accept (kind : TokenKind) : Moves (accept kind) :=
  (nextIs kind).bind fun _ => ite (advance.bind fun _ => pure) pure

theorem expect (kind : TokenKind) : Moves (expect kind) := (accept kind).bind fun _ => ite pure fail

theorem name : Moves name := by
  refine peekKind.bind fun kind => ?_
  split
  · exact advance.bind fun _ => pure
  · exact fail

theorem nextIsWord (word : String) : Moves (nextIsWord word) := by
  refine peekKind.bind fun kind => ?_
  split <;> exact pure

theorem here : Moves here := peek.bind fun _ => pure

theorem spanFrom (start : Mark) : Moves (spanFrom start) :=
  of_yields fun _ => (Yields.spanFrom start).imp fun _ _ _ _ => trivial

end Moves

/-! ## Lists with commas -/

theorem brings_commaList {parts : α → List Node} {K : α → Prop} {starts : TokenKind → Bool} {item : Parser α}
    (h : Brings parts K item) :
    Brings (fun r => r.1.flatMap parts) (fun r => ∀ a ∈ r.1, K a) (commaList starts item) := by
  refine .of_after fun lo => .bring h fun first hfirst => ?_
  refine .loop (fun acc => acc.1.reverse.flatMap parts) (I := fun acc => ∀ a ∈ acc.1, K a) (by simp) (by simpa) ?_
  intro acc hacc
  have done (b : Bool) : After lo (acc.1.reverse.flatMap parts) (Pure.pure (.inr (acc.1.reverse, b)) :
      Parser ((List α × Bool) ⊕ (List α × Bool))) fun hi => Sum.elim
        (fun z => LieInTurn lo hi (z.1.reverse.flatMap parts) ∧ ∀ a ∈ z.1, K a)
        (fun r => LieInTurn lo hi (r.1.flatMap parts) ∧ ∀ a ∈ r.1, K a) :=
    .pure fun hi turn => ⟨turn, by simpa using hacc⟩
  refine .skip (.accept _) fun comma => .ite (fun _ => ?_) fun _ => done _
  refine .skip .peekKind fun kind => .ite (fun _ => ?_) fun _ => done _
  refine .bring h fun x hx => .next (by simp) ?_
  simpa using ⟨hx, hacc⟩

/-- Items that are trees. -/
theorem readsAll_commaList {K : Node → Prop} {starts : TokenKind → Bool} {item : Parser Node} (h : Reads K item) :
    Brings (fun r => r.1) (fun r => ∀ n ∈ r.1, K n) (commaList starts item) := by
  have brings : Brings _ _ (commaList starts item) := brings_commaList h
  simpa only [List.flatMap_singleton'] using brings

theorem Moves.commaList {starts : TokenKind → Bool} {item : Parser α} (h : Moves item) :
    Moves (commaList starts item) :=
  of_yields fun lo => (brings_commaList h lo).imp fun _ _ _ _ => trivial

end AwaitLint.Grammar.Parser
