import AwaitLint.Proofs.FormattedOrder
import AwaitLint.Proofs.NameTokens

/-! # What parsers give

A parser takes tokens from the front and adds none, so no name among the tokens that are left is empty if none was at
the start. `Gives` says so together with what holds of the result, wherever the tokens stand in the text.
-/

namespace AwaitLint.Grammar.Parser

variable {α β σ : Type}

/-- From tokens without an empty name the parser gets to such tokens, with a result of which `Q` holds. -/
def Gives (Q : α → Prop) (p : Parser α) : Prop :=
  ∀ ⦃s : Stream⦄ ⦃a : α⦄ ⦃s' : Stream⦄, p s = some (a, s') → NamesFilled s.tokens → NamesFilled s'.tokens ∧ Q a

/-- A parser of whose result nothing has to be known. -/
abbrev Passes (p : Parser α) : Prop := Gives (fun _ => True) p

/-- A parser for a list of which `Q` holds item by item. -/
abbrev GivesEach (Q : α → Prop) (p : Parser (List α)) : Prop := Gives (fun as => ∀ a ∈ as, Q a) p

namespace Gives

variable {p q : Parser α} {f : α → Parser β} {P : α → Prop} {Q : β → Prop} {a : α}

theorem pure (h : P a) : Gives P (pure a) := by
  intro s b s' heq filled
  cases heq
  exact ⟨filled, h⟩

theorem bind (h : Gives P p) (h' : ∀ a, P a → Gives Q (f a)) : Gives Q (p >>= f) := by
  intro s b s' heq filled
  obtain ⟨a, t, hp, hf⟩ := bind_eq_some heq
  obtain ⟨filled, ha⟩ := h hp filled
  exact h' a ha hf filled

theorem skip (h : Passes p) (h' : ∀ a, Gives Q (f a)) : Gives Q (p >>= f) := h.bind fun a _ => h' a

theorem imp {P' : α → Prop} (h : Gives P p) (h' : ∀ a, P a → P' a) : Gives P' p := by
  intro s a s' heq filled
  exact (h heq filled).imp_right (h' a)

theorem passes (h : Gives P p) : Passes p := h.imp fun _ _ => trivial

theorem fail : Gives P (Parser.fail : Parser α) := by
  intro s a s' heq
  cases heq

theorem orElse (h : Gives P p) (h' : Gives P q) : Gives P (orElse p q) := by
  intro s a s' heq filled
  unfold Parser.orElse at heq
  split at heq
  · next hp => exact h (hp.trans heq) filled
  · exact h' heq filled

theorem ite {c : Prop} [Decidable c] (h : Gives P p) (h' : Gives P q) : Gives P (if c then p else q) := by
  split
  · exact h
  · exact h'

/-- A step that may be left out. -/
theorem optional {c : Prop} [Decidable c] {p : Parser Unit} {f : Unit → Parser β} (hp : Passes p)
    (h : ∀ u, Gives Q (f u)) : Gives Q (if c then p >>= f else f ()) :=
  .ite (.skip hp h) (h ())

/-- A loop keeps what each of its steps keeps. -/
theorem loop {step : σ → Parser (σ ⊕ β)} {I : σ → Prop} {x : σ} (start : I x)
    (h : ∀ y, I y → Gives (Sum.elim I Q) (step y)) : Gives Q (Parser.loop step x) := by
  have run (fuel : Nat) : ∀ y, I y → Gives Q (iterate step fuel y) := by
    induction fuel with
    | zero => exact fun _ _ => .fail
    | succ fuel ih =>
      intro y hy
      refine (h y hy).bind fun r hr => ?_
      cases r with
      | inl z => exact ih z hr
      | inr b => exact .pure hr
  intro s b s' heq filled
  exact run s.budget x start heq filled

theorem foldlM {step : β → σ → Parser β} {xs : List σ} {b : β} (start : Q b)
    (h : ∀ b x, Q b → Gives Q (step b x)) : Gives Q (xs.foldlM step b) := by
  induction xs generalizing b with
  | nil => exact .pure start
  | cons x xs ih =>
    rw [List.foldlM_cons]
    exact (h b x start).bind fun b' hb' => ih hb'

/-! ## Parsers for single tokens -/

theorem peek : Gives (fun t => t.kind.Filled) peek := by
  intro s t s' heq filled
  unfold Parser.peek at heq
  split at heq
  · cases heq
  · next t rest hs =>
    cases heq
    refine ⟨filled, filled t ?_⟩
    rw [hs]
    exact List.mem_cons_self

theorem peekKind : Gives TokenKind.Filled peekKind := peek.bind fun _ filled => .pure filled

end Gives

namespace Passes

theorem pure {a : α} : Passes (Pure.pure a) := Gives.pure trivial

theorem bind {p : Parser α} {f : α → Parser β} (hp : Passes p) (hf : ∀ a, Passes (f a)) : Passes (p >>= f) :=
  Gives.skip hp hf

theorem ite {c : Prop} [Decidable c] {p q : Parser α} (hp : Passes p) (hq : Passes q) : Passes (if c then p else q) :=
  Gives.ite hp hq

theorem loop {step : σ → Parser (σ ⊕ α)} (h : ∀ y, Passes (step y)) (x : σ) : Passes (Parser.loop step x) := by
  refine Gives.loop (I := fun _ => True) trivial fun y _ => (h y).imp fun r _ => ?_
  cases r <;> trivial

theorem peek : Passes peek := Gives.peek.passes

theorem peekKind : Passes peekKind := Gives.peekKind.passes

theorem peekSecond : Passes peekSecond := by
  intro s t s' heq filled
  unfold Parser.peekSecond at heq
  split at heq
  · cases heq
    exact ⟨filled, trivial⟩
  · cases heq

theorem advance : Passes advance := by
  intro s u s' heq filled
  unfold Parser.advance at heq
  split at heq
  · cases heq
  · next t rest hs =>
    cases heq
    rw [hs] at filled
    exact ⟨fun t ht => filled t (List.mem_cons_of_mem _ ht), trivial⟩

theorem nextIs (kind : TokenKind) : Passes (nextIs kind) := peek.bind fun _ => pure

theorem accept (kind : TokenKind) : Passes (accept kind) :=
  (nextIs kind).bind fun _ => ite (advance.bind fun _ => pure) pure

theorem expect (kind : TokenKind) : Passes (expect kind) := (accept kind).bind fun _ => ite pure .fail

theorem nextIsWord (word : String) : Passes (nextIsWord word) := by
  refine peekKind.bind fun kind => ?_
  split <;> exact pure

theorem here : Passes here := peek.bind fun _ => pure

theorem spanFrom (start : Mark) : Passes (spanFrom start) := by
  intro s a s' heq filled
  cases heq
  exact ⟨filled, trivial⟩

end Passes

/-- A name that is read is not empty. -/
theorem Gives.name : Gives (fun id => id ≠ "") name := by
  refine .bind .peekKind fun kind filled => ?_
  split
  · next id verbatim => exact .skip .advance fun _ => .pure (filled id verbatim rfl)
  · exact .fail

theorem Passes.name : Passes name := Gives.name.passes

/-! ## Lists of items -/

section Lists

variable {Q : α → Prop} {item : Parser α}

theorem forall_mem_reverse {as : List α} (h : ∀ a ∈ as, Q a) : ∀ a ∈ as.reverse, Q a :=
  fun a ha => h a (List.mem_reverse.1 ha)

theorem Gives.commaList {starts : TokenKind → Bool} (h : Gives Q item) :
    Gives (fun r => ∀ a ∈ r.1, Q a) (commaList starts item) := by
  refine .bind h fun first hfirst => ?_
  refine .loop (I := fun acc => ∀ a ∈ acc.1, Q a) (List.forall_mem_singleton.2 hfirst) fun acc hacc => ?_
  have done (b : Bool) : Gives (Sum.elim (fun acc : List α × Bool => ∀ a ∈ acc.1, Q a) fun r => ∀ a ∈ r.1, Q a)
      (Pure.pure (.inr (acc.1.reverse, b))) := .pure (forall_mem_reverse hacc)
  refine .skip (.accept _) fun _ => .ite ?_ (done _)
  refine .skip .peekKind fun _ => .ite ?_ (done _)
  exact .bind h fun x hx => .pure (List.forall_mem_cons.2 ⟨hx, hacc⟩)

/-- One more item, newest first. -/
theorem Gives.next {R : β → Prop} (h : Gives Q item) {acc : List α} (hacc : ∀ a ∈ acc, Q a) :
    Gives (Sum.elim (fun as => ∀ a ∈ as, Q a) R) (do return .inl ((← item) :: acc)) :=
  .bind h fun _ hx => .pure (List.forall_mem_cons.2 ⟨hx, hacc⟩)

/-- Items that are read as long as a sign tells that there is one. -/
theorem Gives.collect {sign : Parser β} {goesOn : β → Bool} (hs : Passes sign) (h : Gives Q item) {first : List α}
    (hfirst : ∀ a ∈ first, Q a) :
    GivesEach Q (Parser.loop (fun (acc : List α) => do
      if goesOn (← sign) then return .inl ((← item) :: acc) else return .inr acc.reverse) first) := by
  refine .loop (I := fun acc => ∀ a ∈ acc, Q a) hfirst fun acc hacc => ?_
  exact .skip hs fun _ => .ite (.next h hacc) (.pure (forall_mem_reverse hacc))

end Lists

end AwaitLint.Grammar.Parser
