import AwaitLint.Proofs.LexerSteps
import AwaitLint.Proofs.TextOrder

/-! # Tokens in the order of the text

The tokens that have a text start where the lexer stands and end where it goes on, so they follow each other. An
indentation is followed by a token that has a text.
-/

namespace AwaitLint.Grammar

open Text

namespace Mark

/-- The line and the column in bytes. -/
def position (m : Mark) : Position := toLex ((m.line : ℤ), (m.byte : ℤ))

theorem position_lt_step (m : Mark) (c : Char) : m.position < (m.step c).position := by
  have hbytes : 0 < byteLength c := by
    unfold byteLength
    dsimp only
    split_ifs <;> omega
  unfold position step
  rw [Prod.Lex.toLex_lt_toLex]
  split
  · exact .inl (by dsimp only; omega)
  · exact .inr ⟨rfl, by dsimp only; omega⟩

theorem position_le_advance (m : Mark) (cs : List Char) : m.position ≤ (m.advance cs).position := by
  induction cs generalizing m with
  | nil => exact le_rfl
  | cons c cs ih => exact (m.position_lt_step c).le.trans (ih (m.step c))

theorem position_lt_advance (m : Mark) {cs : List Char} (h : cs ≠ []) : m.position < (m.advance cs).position := by
  cases cs with
  | nil => exact absurd rfl h
  | cons c cs => exact (m.position_lt_step c).trans_le ((m.step c).position_le_advance cs)

theorem advance_append (m : Mark) (cs ds : List Char) : m.advance (cs ++ ds) = (m.advance cs).advance ds :=
  List.foldl_append ..

end Mark

namespace Cursor

/-- The text ends with a line end at `top`, or nothing is left of it. -/
def EndsAt (top : Mark) (c : Cursor) : Prop :=
  c.rest = [] ∨ ∃ text, c.rest = text ++ ['\n'] ∧ c.mark.advance text = top

theorem position_le_skip (c : Cursor) (n : Nat) : c.mark.position ≤ (c.skip n).mark.position := by
  rw [skip_eq]
  exact Mark.position_le_advance _ _

theorem EndsAt.skip {top : Mark} {c : Cursor} (h : c.EndsAt top) (n : Nat) : (c.skip n).EndsAt top := by
  rcases h with hnil | ⟨text, hrest, htop⟩
  · exact .inl (by simp [hnil])
  · rcases Nat.lt_or_ge text.length n with hlong | hshort
    · exact .inl (by simp [hrest]; omega)
    · refine .inr ⟨text.drop n, ?_, ?_⟩
      · rw [rest_skip, hrest, List.drop_append_of_le_length hshort]
      · rw [skip_eq, hrest, List.take_append_of_le_length hshort, ← Mark.advance_append, List.take_append_drop, htop]

/-- A token that is no line end stays before the last line end. -/
theorem EndsAt.position_le {top : Mark} {c : Cursor} (h : c.EndsAt top) {taken left : List Char}
    (here : c.rest = taken ++ left) (last : ∃ d ∈ taken.getLast?, d ≠ '\n') :
    (c.mark.advance taken).position ≤ top.position := by
  obtain ⟨d, hd, hend⟩ := last
  rcases h with hnil | ⟨text, hrest, rfl⟩
  · rw [here, List.append_eq_nil_iff] at hnil
    simp [hnil.1] at hd
  · rw [here] at hrest
    rcases List.eq_nil_or_concat left with rfl | ⟨left, e, rfl⟩
    · rw [List.append_nil] at hrest
      rw [hrest, List.getLast?_append] at hd
      exact absurd (Option.some.inj hd).symm hend
    · rw [List.concat_eq_append, ← List.append_assoc] at hrest
      obtain ⟨rfl, -⟩ := List.append_inj' hrest rfl
      rw [Mark.advance_append]
      exact Mark.position_le_advance _ _

end Cursor

/-- The tokens lie between two positions, in order as far as they have a text. The text of a string token is all that
the token moves over, and an indentation has code behind it. -/
inductive Ahead (top : Position) : Position → List Token → Prop
  | done {lo : Position} (le : lo ≤ top) : Ahead top lo []
  | text {lo : Position} {t : Token} {ts : List Token} (text : Parser.hasText t.kind = true)
      (start : lo ≤ t.start.position) (stop : t.start.position < t.stop.position)
      (string : ∀ cs, t.kind = .string cs → t.stop = t.start.advance cs) (rest : Ahead top t.stop.position ts) :
      Ahead top lo (t :: ts)
  | indent {lo : Position} {t : Token} {ts : List Token} (kind : t.kind = .indent)
      (code : ∀ t' ∈ ts.head?, Parser.hasText t'.kind = true) (rest : Ahead top lo ts) : Ahead top lo (t :: ts)
  | other {lo : Position} {t : Token} {ts : List Token} (kind : t.kind = .newline ∨ t.kind = .dedent ∨
      t.kind = .endmarker) (rest : Ahead top lo ts) : Ahead top lo (t :: ts)

namespace Ahead

variable {top lo lo' : Position} {ts us : List Token}

theorem le (h : Ahead top lo ts) : lo ≤ top := by
  induction h with
  | done le => exact le
  | text _ start stop _ _ ih => exact start.trans (stop.le.trans ih)
  | indent _ _ _ ih => exact ih
  | other _ _ ih => exact ih

theorem append_others (h : Ahead top lo us)
    (others : ∀ t ∈ ts, t.kind = .newline ∨ t.kind = .dedent ∨ t.kind = .endmarker) : Ahead top lo (ts ++ us) := by
  induction ts with
  | nil => exact h
  | cons t ts ih =>
    rw [List.forall_mem_cons] at others
    exact .other others.1 (ih others.2)

end Ahead

namespace LexState

/-! ## The tokens of a step -/

/-- One token, with all the text that the step moves over. -/
structure Emits (s : LexState) (tokens : List Token) (s' : LexState) : Prop where
  token : ∃ kind, tokens = [s.token kind s'.mark] ∧ Parser.hasText kind = true ∧
    ∀ cs, kind = .string cs → s'.mark = s.mark.advance cs

theorem emits_of_emit {s s' : LexState} {kind : TokenKind} {n : Nat} {tokens : List Token}
    (h : s.emit kind n = .next tokens s') (text : Parser.hasText kind = true) (plain : ∀ cs, kind ≠ .string cs) :
    Emits s tokens s' := by
  cases h
  exact ⟨kind, rfl, text, fun cs hcs => absurd hcs (plain cs)⟩

theorem emits_stringToken {s s' : LexState} {tokens : List Token} {n : Nat} {quote : Char}
    (h : s.stringToken n quote = .next tokens s') : Emits s tokens s' := by
  unfold stringToken at h
  split at h
  next size body used hopen =>
  split at h
  · next k hends =>
    cases h
    refine ⟨_, rfl, rfl, fun cs hcs => ?_⟩
    cases hcs
    change (passString (used + k) s).cursor.mark = _
    rw [(s.moved_passString _).cursor, Cursor.skip_eq]
    rfl
  · cases h

theorem emits_wordToken {s s' : LexState} {tokens : List Token} (h : s.wordToken = .next tokens s') :
    Emits s tokens s' := by
  unfold wordToken at h
  extract_lets word n normal asName at h
  have hname (h : asName = .next tokens s') : Emits s tokens s' := by
    simp only [asName] at h
    split at h
    · cases h
    · split at h <;> exact emits_of_emit h rfl nofun
  split at h
  · split at h
    · exact emits_stringToken h
    · exact hname h
  · exact hname h

theorem emits_punctToken {s s' : LexState} {tokens : List Token} {c : Char} (h : s.punctToken c = .next tokens s') :
    Emits s tokens s' := by
  have emits (bs : List Bracket) {p : Punct} {n : Nat}
      (h : { s with brackets := bs }.emit (.punct p) n = .next tokens s') : Emits s tokens s' := by
    obtain ⟨kind, rfl, text, string⟩ := emits_of_emit h rfl nofun
    exact ⟨kind, rfl, text, string⟩
  unfold punctToken at h
  split at h
  · split at h
    · exact emits _ h
    · cases h
  · split at h
    · split at h
      · cases h
      · exact emits _ h
    split at h
    · split at h
      · cases h
      · split at h
        · exact emits _ h
        · cases h
    · exact emits _ h

/-- Code starts here: the next step within a line yields a token that has a text, if it goes on. -/
def AtCode (s : LexState) : Prop :=
  ∃ c cs, s.cursor.rest = c :: cs ∧ c ≠ '#' ∧ c ≠ '\n' ∧ c ≠ '\\'

/-- What a step within a line yields after its blanks. -/
theorem nextToken_emits {s s' : LexState} {tokens : List Token} (h : s.nextToken = .next tokens s') :
    let t : LexState := { s with cursor := s.cursor.skipWhile isIndentation }
    (¬ t.AtCode ∧ ∀ x ∈ tokens, x.kind = .newline) ∨ (t.AtCode ∧ Emits t tokens s') := by
  unfold nextToken at h
  extract_lets t at h
  change (¬ t.AtCode ∧ _) ∨ (t.AtCode ∧ Emits t tokens s')
  have notCode {c : Char} {cs : List Char} (here : t.cursor.rest = c :: cs) (hc : c = '#' ∨ c = '\n' ∨ c = '\\') :
      ¬ t.AtCode := by
    rintro ⟨d, ds, hd, hmark, hend, hslash⟩
    cases here ▸ hd
    tauto
  split at h
  · exact absurd h (atEnd_ne_next t)
  · next c cs here =>
    split at h
    · next hc =>
      cases h
      exact .inl ⟨notCode here (.inl hc), by simp⟩
    next hmark =>
    split at h
    · next hc =>
      refine .inl ⟨notCode here (.inr (.inl hc)), ?_⟩
      split at h <;> rw [← (LexStep.next.inj h).1]
      · simp only [List.forall_mem_singleton]
        rfl
      · simp
    next hend =>
    by_cases hslash : c = '\\'
    · subst hslash
      refine .inl ⟨notCode here (by simp), ?_⟩
      split at h
      · next hnumber => simp [Char.isDigit] at hnumber
      rw [if_neg (by decide), if_neg (by decide), if_pos rfl] at h
      split at h
      · cases h
        simp
      · next herror => exact absurd h (continueLine_error herror)
    · refine .inr ⟨⟨c, cs, here, hmark, hend, hslash⟩, ?_⟩
      split at h
      · split at h
        · exact emits_of_emit h rfl nofun
        · cases h
      split at h
      · exact emits_wordToken h
      split at h
      · exact emits_stringToken h
      exact emits_punctToken h

/-- The characters that bring a count from `n` to `m` end with `quote`. -/
def TakesUpTo (quote : Char) (n m : Nat) (text : List Char) : Prop :=
  ∃ taken left, text = taken ++ left ∧ m = n + taken.length ∧ taken.getLast? = some quote

theorem TakesUpTo.cons {quote d : Char} {n m : Nat} {text : List Char} (h : TakesUpTo quote (n + 1) m text) :
    TakesUpTo quote n m (d :: text) := by
  obtain ⟨taken, left, rfl, rfl, hlast⟩ := h
  refine ⟨d :: taken, left, rfl, by rw [List.length_cons]; omega, ?_⟩
  rw [List.getLast?_cons, hlast]
  rfl

theorem stringLength_takes {quote : Char} {size run n m : Nat} {cs : List Char} (hsize : 0 ≠ size)
    (h : stringLength quote size run n cs = some m) : run = size ∧ m = n ∨ TakesUpTo quote n m cs := by
  fun_induction stringLength quote size run n cs with
  | case1 =>
    cases h
    exact .inl ⟨rfl, rfl⟩
  | case2 => cases h
  | case3 => cases h
  | case4 run n hrun cs hend ih =>
    refine .inr ?_
    rcases ih h with ⟨-, rfl⟩ | later
    · exact ⟨[quote], cs, rfl, rfl, rfl⟩
    · exact later.cons
  | case5 => cases h
  | case6 run n hrun d cs hend hquote ih =>
    rcases ih h with ⟨hzero, -⟩ | later
    · exact absurd hzero hsize
    · exact .inr later.cons.cons
  | case7 run n hrun d cs hend hquote hslash ih =>
    rcases ih h with ⟨hzero, -⟩ | later
    · exact absurd hzero hsize
    · exact .inr later.cons

/-- The lexer moves over characters of which the last is no line end. -/
def OverText (s s' : LexState) : Prop :=
  ∃ taken left, s.cursor.rest = taken ++ left ∧ (∃ d ∈ taken.getLast?, d ≠ '\n') ∧
    s'.cursor = s.cursor.skip taken.length

namespace OverText

variable {s s' : LexState} {top : Mark}

theorem mark_eq {taken left : List Char} (here : s.cursor.rest = taken ++ left)
    (moved : s'.cursor = s.cursor.skip taken.length) : s'.mark = s.mark.advance taken := by
  rw [mark, moved, Cursor.skip_eq, here, List.take_left]
  rfl

theorem position_lt (h : OverText s s') : s.mark.position < s'.mark.position := by
  obtain ⟨taken, left, here, ⟨d, hd, -⟩, moved⟩ := h
  rw [mark_eq here moved]
  apply Mark.position_lt_advance
  rintro rfl
  simp at hd

theorem position_le (h : OverText s s') (ends : s.cursor.EndsAt top) : s'.mark.position ≤ top.position := by
  obtain ⟨taken, left, here, last, moved⟩ := h
  rw [mark_eq here moved]
  exact ends.position_le here last

theorem of_single {c : Char} {cs : List Char} (here : s.cursor.rest = c :: cs) (hc : c ≠ '\n')
    (moved : s'.cursor = s.cursor.skip 1) : OverText s s' :=
  ⟨[c], cs, here, ⟨c, rfl, hc⟩, moved⟩

theorem of_string (front : List Char) {body : List Char} {quote : Char} {size n : Nat} (hsize : 0 ≠ size)
    (here : s.cursor.rest = front ++ body) (hquote : quote = '"' ∨ quote = '\'')
    (ends : stringLength quote size 0 0 body = some n) (moved : s'.cursor = s.cursor.skip (front.length + n)) :
    OverText s s' := by
  obtain ⟨hzero, -⟩ | ⟨taken, left, rfl, rfl, hlast⟩ := stringLength_takes hsize ends
  · exact absurd hzero hsize
  · refine ⟨front ++ taken, left, by rw [here, List.append_assoc], ⟨quote, ?_, ?_⟩, ?_⟩
    · rw [List.getLast?_append, hlast]
      rfl
    · rcases hquote with rfl | rfl <;> decide
    · rw [moved, List.length_append, Nat.zero_add]

end OverText

theorem Passage.overText {s s' : LexState} (h : Passage s s') (code : s.AtCode) : OverText s s' := by
  obtain ⟨c, cs, hc, hmark, hend, hslash⟩ := code
  cases h with
  | comment here moved => exact absurd (List.cons.inj (hc ▸ here)).1 hmark
  | lineEnd here moved => exact absurd (List.cons.inj (hc ▸ here)).1 hend
  | joined here moved => exact absurd (List.cons.inj (hc ▸ here)).1 hslash
  | plain taken here some plain moved =>
    refine ⟨taken, _, here, ⟨taken.getLast some, List.getLast?_eq_some_getLast some, fun hlast => ?_⟩, moved.cursor⟩
    have hplain := plain _ (List.getLast_mem some)
    rw [hlast] at hplain
    exact absurd hplain (by decide)
  | opening here opens moved => exact .of_single hc hend moved.cursor
  | closing here closes opened moved => exact .of_single hc hend moved.cursor
  | @short word body quote n here plain hquote single ends moved =>
    refine .of_string (word ++ [quote]) (by decide) (by simp [here]) hquote ends ?_
    simpa using moved.cursor
  | @triple word body quote n here plain hquote ends moved =>
    refine .of_string (word ++ [quote, quote, quote]) (by decide) (by simp [here]) hquote ends ?_
    simpa using moved.cursor

/-! ## The start of a line -/

theorem kind_of_mem_structural {s : LexState} {kinds : List TokenKind} {line reach : Nat} {t : Token}
    (h : t ∈ s.structural kinds line reach) : t.kind ∈ kinds := by
  obtain ⟨k, hk, rfl⟩ := List.mem_map.1 h
  exact hk

/-- With enough fuel the measure ends at a character that is neither a blank nor a backslash. -/
theorem indentation_stops {fuel : Nat} {fixed : Option Nat} {i i' : Indent} {s s' : LexState}
    (h : indentation fuel fixed i s = .ok (i', s')) (hfuel : s.cursor.rest.length ≤ fuel) :
    ∀ c ∈ s'.cursor.rest.head?, isIndentation c = false ∧ c ≠ '\\' := by
  induction fuel generalizing fixed i s with
  | zero =>
    cases h
    simp [List.length_eq_zero_iff.1 (Nat.le_zero.1 hfuel)]
  | succ fuel ih =>
    unfold indentation at h
    split at h
    · next c cs here =>
      split at h
      · refine ih h ?_
        rw [(s.moved_move 1).rest, List.length_drop]
        omega
      next hblank =>
      split at h
      · dsimp only at h
        split at h
        · next t hjoined =>
          refine ih h ?_
          obtain ⟨d, ds, rfl, moved⟩ := continueLine_ok hjoined here
          change t.cursor.rest.length ≤ fuel
          rw [moved.rest, List.length_drop]
          omega
        · cases h
      · next hslash =>
        cases h
        simp [here, hblank, hslash]
    · next here =>
      cases h
      simp [here]

/-- A step within a line would go on from code. -/
def CodeAhead (s : LexState) : Prop :=
  s.lineStart = false ∧ { s with cursor := s.cursor.skipWhile isIndentation }.AtCode

/-- The start of a line yields no text. Behind an indentation there is code. -/
theorem startLine_tokens {fuel : Nat} {s s' : LexState} {tokens : List Token} (hfuel : s.cursor.rest.length ≤ fuel)
    (h : s.startLine fuel = .next tokens s') :
    (∀ t ∈ tokens, t.kind = .dedent) ∨ ∃ t, tokens = [t] ∧ t.kind = .indent ∧ s'.CodeAhead := by
  unfold startLine at h
  split at h
  · next e herror => exact absurd h (indentation_error herror)
  · next i t hblanks =>
    split at h
    · exact absurd h (atEnd_ne_next t)
    · next c cs here =>
      have hstop := indentation_stops hblanks hfuel c (by rw [here]; rfl)
      split at h
      · cases h
        exact .inl (by simp)
      next hc =>
      split at h
      · unfold indented at h
        dsimp only at h
        split at h
        · split at h <;> cases h
          exact .inl (by simp)
        split at h
        · split at h
          · cases h
          split at h <;> cases h
          refine .inr ⟨_, rfl, rfl, rfl, c, cs, ?_, ?_⟩
          · simp [Cursor.skipWhile, here, hstop.1]
          · tauto
        · split at h
          · cases h
          split at h <;> cases h
          exact .inl fun x hx => List.eq_of_mem_replicate (kind_of_mem_structural hx)
      · cases h
        exact .inl (by simp)

theorem atEnd_tokens {s : LexState} {tokens : List Token} {ending : Ending} (h : s.atEnd = .done tokens ending) :
    ∀ t ∈ tokens, t.kind = .dedent ∨ t.kind = .endmarker := by
  unfold atEnd at h
  split at h
  · cases h
    simp
  · cases h
    intro t ht
    have hkind := kind_of_mem_structural ht
    rw [List.mem_append, List.mem_singleton] at hkind
    exact hkind.imp_left List.eq_of_mem_replicate

theorem continueLine_done {s : LexState} {e : LexStep} (h : s.continueLine = .error e) :
    ∃ ending, e = .done [] ending := by
  unfold continueLine at h
  dsimp only at h
  split at h
  · split at h
    · cases h
      exact ⟨_, rfl⟩
    · cases h
  · cases h
    exact ⟨_, rfl⟩

theorem indentation_done {fuel : Nat} {fixed : Option Nat} {i : Indent} {s : LexState} {e : LexStep}
    (h : indentation fuel fixed i s = .error e) : ∃ ending, e = .done [] ending := by
  induction fuel generalizing fixed i s with
  | zero => cases h
  | succ fuel ih =>
    unfold indentation at h
    split at h
    · split at h
      · exact ih h
      split at h
      · dsimp only at h
        split at h
        · exact ih h
        · next herror =>
          cases h
          exact continueLine_done herror
      · cases h
    · cases h

theorem startLine_done {fuel : Nat} {s : LexState} {tokens : List Token} {ending : Ending}
    (h : s.startLine fuel = .done tokens ending) : ∀ t ∈ tokens, t.kind = .dedent ∨ t.kind = .endmarker := by
  unfold startLine at h
  split at h
  · next e herror =>
    obtain ⟨f, rfl⟩ := indentation_done herror
    cases h
    simp
  · next i t hblanks =>
    split at h
    · exact atEnd_tokens h
    · split at h
      · cases h
      split at h
      · unfold indented at h
        dsimp only at h
        split at h
        · split at h <;> cases h
          simp
        split at h
        · split at h
          · cases h
            simp
          split at h <;> cases h
          simp
        · split at h
          · cases h
            simp
          split at h <;> cases h
          simp
      · cases h

theorem stringToken_done {s : LexState} {n : Nat} {quote : Char} {tokens : List Token} {ending : Ending}
    (h : s.stringToken n quote = .done tokens ending) : tokens = [] := by
  unfold stringToken at h
  split at h
  split at h
  · cases h
  · cases h
    rfl

theorem wordToken_done {s : LexState} {tokens : List Token} {ending : Ending}
    (h : s.wordToken = .done tokens ending) : tokens = [] := by
  unfold wordToken at h
  extract_lets word n normal asName at h
  have hname (h : asName = .done tokens ending) : tokens = [] := by
    simp only [asName] at h
    split at h
    · cases h
      rfl
    · split at h <;> cases h
  split at h
  · split at h
    · exact stringToken_done h
    · exact hname h
  · exact hname h

theorem punctToken_done {s : LexState} {c : Char} {tokens : List Token} {ending : Ending}
    (h : s.punctToken c = .done tokens ending) : tokens = [] := by
  unfold punctToken at h
  split at h
  · split at h <;> cases h
    rfl
  · split at h
    · split at h <;> cases h
      rfl
    split at h
    · split at h
      · cases h
        rfl
      · split at h <;> cases h
        rfl
    · cases h

/-- Only the end of the text has tokens when the lexer stops within a line. -/
theorem nextToken_done {s : LexState} {tokens : List Token} {ending : Ending} (h : s.nextToken = .done tokens ending) :
    tokens = [] ∨ (s.cursor.skipWhile isIndentation).rest = [] ∧
      ∀ t ∈ tokens, t.kind = .dedent ∨ t.kind = .endmarker := by
  unfold nextToken at h
  extract_lets t at h
  split at h
  · next hnil => exact .inr ⟨hnil, atEnd_tokens h⟩
  · refine .inl ?_
    split at h
    · cases h
    split at h
    · split at h <;> cases h
    split at h
    · split at h <;> cases h
      rfl
    split at h
    · exact wordToken_done h
    split at h
    · exact stringToken_done h
    split at h
    · split at h
      · cases h
      · next herror =>
        obtain ⟨f, rfl⟩ := continueLine_done herror
        cases h
        rfl
    · exact punctToken_done h

/-! ## All tokens -/

/-- The tokens are those that a lexer yields from its place on. -/
structure Precedes (top : Mark) (s : LexState) (ts : List Token) : Prop where
  ahead : ∀ lo, lo ≤ s.mark.position → lo ≤ top.position → Ahead top.position lo ts
  code : s.CodeAhead → ∀ t ∈ ts.head?, Parser.hasText t.kind = true

theorem step_skips {fuel : Nat} {s s' : LexState} {tokens : List Token} (h : s.step fuel = .next tokens s') :
    ∃ n, s'.cursor = s.cursor.skip n := by
  unfold step at h
  split at h
  · obtain ⟨i, t, hblanks, hopening⟩ := startLine_opening h
    obtain ⟨m, hm⟩ := (blanks_indentation hblanks).moved
    obtain ⟨n, hn, -⟩ := hopening.skips
    exact ⟨m + n, by rw [hn, hm.cursor, Cursor.skip_skip]⟩
  · obtain ⟨n, hn, -⟩ := (nextToken_passage h).skips
    exact ⟨_, by rw [hn, (s.moved_skipWhile isIndentation).cursor, Cursor.skip_skip]⟩

theorem Precedes.step {fuel : Nat} {top : Mark} {s s' : LexState} {tokens us : List Token}
    (h : s.step fuel = .next tokens s') (hfuel : s.cursor.rest.length ≤ fuel) (ends : s.cursor.EndsAt top)
    (later : Precedes top s' us) : Precedes top s (tokens ++ us) := by
  obtain ⟨n, hn⟩ := step_skips h
  have hle : s.mark.position ≤ s'.mark.position := by
    rw [mark, mark, hn]
    exact s.cursor.position_le_skip n
  unfold LexState.step at h
  split at h
  · next hstart =>
    refine ⟨fun lo hlo htop => ?_, fun code => absurd hstart (by simp [code.1])⟩
    have rest := later.ahead lo (hlo.trans hle) htop
    rcases startLine_tokens hfuel h with dedents | ⟨t, rfl, kind, code⟩
    · exact rest.append_others fun t ht => .inr (.inl (dedents t ht))
    · exact .indent kind (later.code code) rest
  · have passage := nextToken_passage h
    have blanks := s.moved_skipWhile isIndentation
    rcases nextToken_emits h with ⟨hcode, newlines⟩ | ⟨hcode, ⟨kind, rfl, text, string⟩⟩
    · refine ⟨fun lo hlo htop => ?_, fun code => absurd code.2 hcode⟩
      exact (later.ahead lo (hlo.trans hle) htop).append_others fun t ht => .inl (newlines t ht)
    · have passed := passage.overText hcode
      refine ⟨fun lo hlo htop => ?_, fun _ t ht => ?_⟩
      · refine .text text (hlo.trans ?_) passed.position_lt string (later.ahead _ le_rfl ?_)
        · rw [token, mark, mark, blanks.cursor]
          exact s.cursor.position_le_skip _
        · exact passed.position_le (blanks.cursor ▸ ends.skip _)
      · obtain rfl := Option.some.inj ht
        exact text

theorem Precedes.done {fuel : Nat} {top : Mark} {s : LexState} {tokens : List Token} {ending : Ending}
    (h : s.step fuel = .done tokens ending) : Precedes top s tokens := by
  have others (hkind : ∀ t ∈ tokens, t.kind = .dedent ∨ t.kind = .endmarker) {lo : Position}
      (htop : lo ≤ top.position) : Ahead top.position lo tokens := by
    rw [← List.append_nil tokens]
    exact (Ahead.done htop).append_others fun t ht => .inr (hkind t ht)
  unfold LexState.step at h
  split at h
  · next hstart =>
    exact ⟨fun lo _ htop => others (startLine_done h) htop, fun code => absurd hstart (by simp [code.1])⟩
  · rcases nextToken_done h with rfl | ⟨hnil, hkind⟩
    · exact ⟨fun lo _ htop => .done htop, by simp⟩
    · refine ⟨fun lo _ htop => others hkind htop, fun code => ?_⟩
      obtain ⟨c, cs, here, -⟩ := code.2
      exact absurd (hnil ▸ here) (by simp)

theorem runFrom_precedes {fuel : Nat} {top : Mark} {s : LexState} (acc : List Token) (hfuel : s.work < fuel)
    (ends : s.cursor.EndsAt top) : ∃ ts, (runFrom fuel acc s).tokens = acc.reverse ++ ts ∧ Precedes top s ts := by
  induction fuel generalizing acc s with
  | zero => omega
  | succ fuel ih =>
    rw [runFrom]
    split
    · next tokens s' hstep =>
      obtain ⟨hwork, -⟩ := step_progress hstep
      obtain ⟨n, hn⟩ := step_skips hstep
      obtain ⟨ts, hts, later⟩ := ih (s := s') (tokens.reverse ++ acc) (by omega) (hn ▸ ends.skip n)
      refine ⟨tokens ++ ts, by simp [hts], .step hstep ?_ ends later⟩
      unfold work at hfuel
      omega
    · next tokens ending hstep => exact ⟨tokens, rfl, .done hstep⟩

end LexState

/-- The tokens of a text that ends with its last line are ahead of where it starts. -/
theorem lexAt_ahead (start : Mark) (text : List Char) :
    Ahead (start.advance text).position start.position (lexAt start (text ++ ['\n'])).tokens := by
  let s : LexState := { cursor := ⟨text ++ ['\n'], start⟩, line := text ++ ['\n'] }
  have hfuel : s.work < 3 * (text ++ ['\n']).length + 8 := by
    simp only [s, LexState.work, List.length_append, List.length_singleton, if_true]
    omega
  have ends : s.cursor.EndsAt (start.advance text) := .inr ⟨text, rfl, rfl⟩
  obtain ⟨ts, hts, precedes⟩ := s.runFrom_precedes [] hfuel ends
  rw [lexAt, hts]
  exact precedes.ahead _ le_rfl (start.position_le_advance text)

end AwaitLint.Grammar
