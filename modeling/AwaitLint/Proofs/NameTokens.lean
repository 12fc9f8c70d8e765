import AwaitLint.Proofs.TokenOrder

/-! # Names are not empty

A word has a character at least, and no step to its normal form loses the last one: a character is taken apart into one
or more, marks are put in order, and what is composed starts with a starter. So the lexer never yields an empty name.
-/

namespace AwaitLint.Text

theorem parts_ne_nil (n : Nat) : parts n ≠ [] := by
  unfold parts
  split
  · simp
  · split <;> simp

theorem insertMark_ne_nil (m : Nat) (marks : List Nat) : insertMark m marks ≠ [] := by
  unfold insertMark
  split
  · simp
  · split <;> simp

theorem orderMarks_ne_nil {pending ns : List Nat} (h : pending ≠ [] ∨ ns ≠ []) : orderMarks pending ns ≠ [] := by
  induction ns generalizing pending with
  | nil => simpa [orderMarks] using h
  | cons n ns ih =>
    rw [orderMarks]
    split
    · simp
    · exact ih (.inl (insertMark_ne_nil n pending))

theorem composeFrom_ne_nil (starter : Nat) (kept ns : List Nat) : composeFrom starter kept ns ≠ [] := by
  induction ns generalizing starter kept with
  | nil => exact List.cons_ne_nil _ _
  | cons n ns ih =>
    unfold composeFrom
    extract_lets cls blocked
    split
    · exact ih _ _
    · split
      · exact List.cons_ne_nil _ _
      · exact ih _ _

theorem compose_ne_nil {ns : List Nat} (h : ns ≠ []) : compose ns ≠ [] := by
  cases ns with
  | nil => exact absurd rfl h
  | cons n ns => exact composeFrom_ne_nil n [] ns

theorem normalName_ne_nil {cs : List Char} (h : cs ≠ []) : normalName cs ≠ [] := by
  unfold normalName
  split
  · exact h
  · have apart : (cs.flatMap fun c => parts c.toNat) ≠ [] := by
      obtain ⟨c, rest, rfl⟩ := List.exists_cons_of_ne_nil h
      rw [List.flatMap_cons]
      exact List.append_ne_nil_of_left_ne_nil (parts_ne_nil c.toNat) _
    intro hnil
    exact compose_ne_nil (orderMarks_ne_nil (.inr apart)) (List.map_eq_nil_iff.1 hnil)

end AwaitLint.Text

namespace AwaitLint.Grammar

/-- If the kind is that of a name, the name is not empty. -/
def TokenKind.Filled (kind : TokenKind) : Prop := ∀ id verbatim, kind = .name id verbatim → id ≠ ""

/-- No name among the tokens is empty. -/
def NamesFilled (ts : List Token) : Prop := ∀ t ∈ ts, t.kind.Filled

theorem NamesFilled.append {ts us : List Token} (h : NamesFilled ts) (h' : NamesFilled us) :
    NamesFilled (ts ++ us) :=
  List.forall_mem_append.2 ⟨h, h'⟩

theorem NamesFilled.reverse {ts : List Token} (h : NamesFilled ts) : NamesFilled ts.reverse :=
  fun t ht => h t (List.mem_reverse.1 ht)

namespace LexState

variable {s s' : LexState} {tokens : List Token}

theorem namesFilled_of_emit {kind : TokenKind} {n : Nat} (h : s.emit kind n = .next tokens s') (filled : kind.Filled) :
    NamesFilled tokens := by
  cases h
  exact List.forall_mem_singleton.2 filled

theorem namesFilled_stringToken {n : Nat} {quote : Char} (h : s.stringToken n quote = .next tokens s') :
    NamesFilled tokens := by
  unfold stringToken at h
  split at h
  split at h
  · cases h
    exact List.forall_mem_singleton.2 nofun
  · cases h

theorem namesFilled_wordToken {c : Char} {cs : List Char} (here : s.cursor.rest = c :: cs)
    (hc : Number.isNameChar c = true) (h : s.wordToken = .next tokens s') : NamesFilled tokens := by
  unfold wordToken at h
  extract_lets word n normal asName at h
  have hword : word ≠ [] := by
    simp only [word, here, List.takeWhile_cons_of_pos hc]
    exact List.cons_ne_nil _ _
  have hnormal : (TokenKind.name (String.ofList normal) (normal == word)).Filled := by
    intro id verbatim heq hid
    cases heq
    exact Text.normalName_ne_nil hword (by simpa using congrArg String.toList hid)
  have hname (h : asName = .next tokens s') : NamesFilled tokens := by
    simp only [asName] at h
    split at h
    · cases h
    · split at h
      · exact namesFilled_of_emit h nofun
      · exact namesFilled_of_emit h hnormal
  split at h
  · split at h
    · exact namesFilled_stringToken h
    · exact hname h
  · exact hname h

theorem namesFilled_punctToken {c : Char} (h : s.punctToken c = .next tokens s') : NamesFilled tokens := by
  unfold punctToken at h
  split at h
  · split at h
    · exact namesFilled_of_emit h nofun
    · cases h
  · split at h
    · split at h
      · cases h
      · exact namesFilled_of_emit h nofun
    split at h
    · split at h
      · cases h
      · split at h
        · exact namesFilled_of_emit h nofun
        · cases h
    · exact namesFilled_of_emit h nofun

theorem namesFilled_nextToken (h : s.nextToken = .next tokens s') : NamesFilled tokens := by
  unfold nextToken at h
  extract_lets t at h
  split at h
  · exact absurd h (atEnd_ne_next t)
  next c cs here =>
  split at h
  · cases h
    exact List.forall_mem_nil _
  split at h
  · split at h <;> rw [← (LexStep.next.inj h).1]
    · exact List.forall_mem_singleton.2 nofun
    · exact List.forall_mem_nil _
  split at h
  · split at h
    · exact namesFilled_of_emit h nofun
    · cases h
  split at h
  · next hc => exact namesFilled_wordToken here hc h
  split at h
  · exact namesFilled_stringToken h
  split at h
  · split at h
    · cases h
      exact List.forall_mem_nil _
    · next herror => exact absurd h (continueLine_error herror)
  · exact namesFilled_punctToken h

theorem namesFilled_step {fuel : Nat} (hfuel : s.cursor.rest.length ≤ fuel) (h : s.step fuel = .next tokens s') :
    NamesFilled tokens := by
  unfold step at h
  split at h
  · rcases startLine_tokens hfuel h with dedents | ⟨t, rfl, kind, -⟩
    · intro t ht id verbatim heq
      rw [dedents t ht] at heq
      cases heq
    · refine List.forall_mem_singleton.2 fun id verbatim heq => ?_
      rw [kind] at heq
      cases heq
  · exact namesFilled_nextToken h

theorem namesFilled_done {fuel : Nat} {ending : Ending} (h : s.step fuel = .done tokens ending) :
    NamesFilled tokens := by
  have others (hkind : ∀ t ∈ tokens, t.kind = .dedent ∨ t.kind = .endmarker) : NamesFilled tokens := by
    intro t ht id verbatim heq
    rcases hkind t ht with hkind | hkind <;> rw [hkind] at heq <;> cases heq
  unfold step at h
  split at h
  · exact others (startLine_done h)
  · rcases nextToken_done h with rfl | ⟨-, hkind⟩
    · exact List.forall_mem_nil _
    · exact others hkind

theorem namesFilled_runFrom {fuel : Nat} {acc : List Token} (hfuel : s.work < fuel) (hacc : NamesFilled acc) :
    NamesFilled (runFrom fuel acc s).tokens := by
  induction fuel generalizing acc s with
  | zero => omega
  | succ fuel ih =>
    rw [runFrom]
    split
    · next tokens s' hstep =>
      have hprogress := (step_progress hstep).1
      have hrest : s.cursor.rest.length ≤ fuel := by
        unfold work at hfuel
        omega
      exact ih (by omega) ((namesFilled_step hrest hstep).reverse.append hacc)
    · next tokens ending hstep => exact hacc.reverse.append (namesFilled_done hstep)

end LexState

/-- No name among the tokens of a text is empty. -/
theorem namesFilled_lexAt (start : Mark) (text : List Char) : NamesFilled (lexAt start text).tokens := by
  apply LexState.namesFilled_runFrom
  · simp only [LexState.work, if_true]
    omega
  · exact List.forall_mem_nil _

end AwaitLint.Grammar
