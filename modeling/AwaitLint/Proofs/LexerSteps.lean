import AwaitLint.Proofs.TextLines
import AwaitLint.Proofs.TokenExtents

/-! # What a step of the lexer moves over

For each step that goes on, `Passage` and `Opening` name the characters that it moves over and what
becomes of brackets and indentation. Every step gets on with the text, so the lexer's bound on its steps
is never reached.
-/

namespace AwaitLint.Grammar

open Text

namespace LexState

/-- The lexer has moved over `n` characters, and nothing else has changed that bears on later lines. -/
structure Moved (s : LexState) (n : Nat) (s' : LexState) : Prop where
  cursor : s'.cursor = s.cursor.skip n
  lineStart : s'.lineStart = s.lineStart
  indents : s'.indents = s.indents
  brackets : s'.brackets = s.brackets

namespace Moved

variable {s s' s'' : LexState} {m n : Nat}

theorem trans (h : s.Moved m s') (h' : s'.Moved n s'') : s.Moved (m + n) s'' where
  cursor := by rw [h'.cursor, h.cursor, Cursor.skip_skip]
  lineStart := h'.lineStart.trans h.lineStart
  indents := h'.indents.trans h.indents
  brackets := h'.brackets.trans h.brackets

theorem rest (h : s.Moved n s') : s'.cursor.rest = s.cursor.rest.drop n := by
  rw [h.cursor, Cursor.rest_skip]

theorem rest_of_append (h : s.Moved n s') (taken : List Char) {left : List Char}
    (here : s.cursor.rest = taken ++ left) (hn : taken.length = n) : s'.cursor.rest = left := by
  rw [h.rest, here, ← hn, List.drop_left]

theorem line (h : s.Moved n s') : s'.mark.line = s.mark.line + (s.cursor.rest.take n).count '\n' := by
  rw [mark, mark, h.cursor, Cursor.skip_eq, Mark.line_advance]

theorem line_of_append (h : s.Moved n s') (taken : List Char) {left : List Char}
    (here : s.cursor.rest = taken ++ left) (hn : taken.length = n) :
    s'.mark.line = s.mark.line + taken.count '\n' := by
  rw [h.line, here, ← hn, List.take_left]

end Moved

theorem moved_move (s : LexState) (n : Nat) : s.Moved n (s.move n) := ⟨rfl, rfl, rfl, rfl⟩

/-- The second part of a move. -/
theorem Moved.of_add {s s' : LexState} {m n : Nat} (h : s.Moved (m + n) s') : (s.move m).Moved n s' where
  cursor := by rw [h.cursor, move, Cursor.skip_skip]
  lineStart := h.lineStart
  indents := h.indents
  brackets := h.brackets

theorem moved_nextLine (s : LexState) (continued : Bool) : s.Moved 1 (s.nextLine continued) :=
  ⟨rfl, rfl, rfl, rfl⟩

theorem moved_passString (n : Nat) (s : LexState) : s.Moved n (passString n s) := by
  induction n generalizing s with
  | zero => exact ⟨rfl, rfl, rfl, rfl⟩
  | succ n ih =>
    rw [passString, Nat.add_comm]
    split
    · exact (s.moved_nextLine true).trans (ih _)
    · exact (s.moved_move 1).trans (ih _)

theorem moved_skipWhile (s : LexState) (p : Char → Bool) :
    s.Moved (s.cursor.rest.takeWhile p).length { s with cursor := s.cursor.skipWhile p } :=
  ⟨Cursor.skipWhile_eq p s.cursor, rfl, rfl, rfl⟩

theorem moved_of_emit {s s' : LexState} {kind : TokenKind} {n : Nat} {tokens : List Token}
    (h : s.emit kind n = .next tokens s') : s.Moved n s' := by
  cases h
  exact ⟨rfl, rfl, rfl, rfl⟩

/-- What the lexer moves over when it goes on from a character that is no blank. -/
inductive Passage (s s' : LexState) : Prop
  | comment {cs : List Char} (here : s.cursor.rest = '#' :: cs)
      (moved : s.Moved (s.cursor.rest.takeWhile (· != '\n')).length s')
  | lineEnd {cs : List Char} (here : s.cursor.rest = '\n' :: cs)
      (moved : { s with lineStart := true }.Moved 1 s')
  | plain (taken : List Char) {left : List Char} (here : s.cursor.rest = taken ++ left) (some : taken ≠ [])
      (plain : ∀ c ∈ taken, isPlain c = true) (moved : s.Moved taken.length s')
  | opening {c : Char} {cs : List Char} {b : Bracket} (here : s.cursor.rest = c :: cs)
      (opens : isOpening c = true) (moved : { s with brackets := b :: s.brackets }.Moved 1 s')
  | closing {c : Char} {cs : List Char} {b : Bracket} {bs : List Bracket} (here : s.cursor.rest = c :: cs)
      (closes : isClosing c = true) (opened : s.brackets = b :: bs)
      (moved : { s with brackets := bs }.Moved 1 s')
  | short {word body : List Char} {quote : Char} {n : Nat} (here : s.cursor.rest = word ++ quote :: body)
      (plain : ∀ c ∈ word, isPlain c = true) (quoted : quote = '"' ∨ quote = '\'')
      (single : ∀ rest, body ≠ quote :: quote :: rest) (ends : stringLength quote 1 0 0 body = some n)
      (moved : s.Moved (word.length + 1 + n) s')
  | triple {word body : List Char} {quote : Char} {n : Nat}
      (here : s.cursor.rest = word ++ quote :: quote :: quote :: body)
      (plain : ∀ c ∈ word, isPlain c = true) (quoted : quote = '"' ∨ quote = '\'')
      (ends : stringLength quote 3 0 0 body = some n) (moved : s.Moved (word.length + 3 + n) s')
  | joined {c : Char} {cs : List Char} (here : s.cursor.rest = '\\' :: '\n' :: c :: cs) (moved : s.Moved 2 s')

theorem atEnd_ne_next (s : LexState) {tokens : List Token} {s' : LexState} : s.atEnd ≠ .next tokens s' := by
  unfold atEnd
  split <;> simp

theorem continueLine_error {s : LexState} {e : LexStep} (h : s.continueLine = .error e)
    {tokens : List Token} {s' : LexState} : e ≠ .next tokens s' := by
  unfold continueLine at h
  dsimp only at h
  split at h
  · split at h
    · cases h
      simp
    · cases h
  · cases h
    simp

theorem continueLine_ok {s s' : LexState} (h : s.continueLine = .ok s') {c : Char} {cs : List Char}
    (here : s.cursor.rest = c :: cs) : ∃ d ds, cs = '\n' :: d :: ds ∧ s.Moved 2 s' := by
  have hrest : (s.move 1).cursor.rest = cs := by rw [(s.moved_move 1).rest, here]; rfl
  unfold continueLine at h
  dsimp only at h
  rw [hrest] at h
  split at h
  · next rest =>
    split at h
    · cases h
    · next hne =>
      cases h
      obtain ⟨d, ds, rfl⟩ := List.exists_cons_of_ne_nil hne
      exact ⟨d, ds, rfl, (s.moved_move 1).trans ((s.move 1).moved_nextLine true)⟩
  · cases h

theorem passage_stringToken {s s' : LexState} {tokens : List Token} (word : List Char) {body : List Char}
    {quote : Char} (here : s.cursor.rest = word ++ quote :: body) (plain : ∀ c ∈ word, isPlain c = true)
    (quoted : quote = '"' ∨ quote = '\'') (h : s.stringToken word.length quote = .next tokens s') :
    Passage s s' := by
  have hbody : s.cursor.rest.drop (word.length + 1) = body := by
    rw [here, ← List.drop_drop, List.drop_left]
    rfl
  unfold stringToken at h
  rw [hbody] at h
  split at h
  next size inner used hopen =>
  split at h
  · next n hends =>
    cases h
    split at hopen
    · next a b rest =>
      split at hopen <;> cases hopen
      · next hquotes =>
        obtain ⟨rfl, rfl⟩ := hquotes
        exact .triple here plain quoted hends (s.moved_passString _)
      · next hquotes =>
        refine .short here plain quoted (fun r hr => hquotes ?_) hends (s.moved_passString _)
        obtain ⟨rfl, hr⟩ := List.cons.inj hr
        exact ⟨rfl, (List.cons.inj hr).1⟩
    · next hfew =>
      cases hopen
      exact .short here plain quoted (fun r hr => hfew _ _ _ hr) hends (s.moved_passString _)
  · cases h

theorem passage_wordToken {s s' : LexState} {tokens : List Token} {c : Char} {cs : List Char}
    (here : s.cursor.rest = c :: cs) (hc : Number.isNameChar c = true) (h : s.wordToken = .next tokens s') :
    Passage s s' := by
  unfold wordToken at h
  extract_lets word n normal asName at h
  have hparts : word ++ s.cursor.rest.drop n = s.cursor.rest :=
    List.prefix_iff_eq_append.1 (List.takeWhile_prefix Number.isNameChar)
  have plain : ∀ x ∈ word, isPlain x = true := fun x hx =>
    Number.isPlain_of_isNameChar (List.mem_takeWhile_imp hx)
  have hne : word ≠ [] := by simp [word, here, hc]
  have hname (h : asName = .next tokens s') : Passage s s' := by
    simp only [asName] at h
    split at h
    · cases h
    · split at h <;> exact .plain word hparts.symm hne plain (moved_of_emit h)
  split at h
  · next d ds hd =>
    split at h
    · next hquote =>
      rw [hd] at hparts
      exact passage_stringToken word hparts.symm plain hquote.1 h
    · exact hname h
  · exact hname h

theorem isPlain_of_read?_none {c : Char} {cs : List Char} (hnone : Punct.read? (c :: cs) = none)
    (hc : c ∈ special → c = '\r' ∨ isOpening c = true ∨ isClosing c = true)
    (hprint : Text.isPrintable c = true) : isPlain c = true := by
  by_contra hplain
  rcases hc (by simpa [isPlain] using hplain) with rfl | hopen | hclose
  · exact absurd hprint (by decide)
  · simp only [isOpening, Bool.or_eq_true, beq_iff_eq] at hopen
    rcases hopen with (rfl | rfl) | rfl <;> cases hnone
  · simp only [isClosing, Bool.or_eq_true, beq_iff_eq] at hclose
    rcases hclose with (rfl | rfl) | rfl <;> cases hnone

theorem passage_punctToken {s s' : LexState} {tokens : List Token} {c : Char} {cs : List Char}
    (here : s.cursor.rest = c :: cs)
    (hc : c ∈ special → c = '\r' ∨ isOpening c = true ∨ isClosing c = true)
    (h : s.punctToken c = .next tokens s') : Passage s s' := by
  unfold punctToken at h
  split at h
  · next hnone =>
    split at h
    · next hprint =>
      have hplain := isPlain_of_read?_none (here ▸ hnone) hc hprint
      exact .plain [c] here (by simp) (by simpa using hplain) (moved_of_emit h)
    · cases h
  · next p n hread =>
    obtain ⟨hpos, hle, hkind⟩ := Punct.read?_cases hread
    split at h
    · next hopening =>
      rw [if_pos hopening, here] at hkind
      obtain ⟨rfl, hopens⟩ := hkind
      split at h
      · cases h
      · exact .opening here (by simpa using hopens) (moved_of_emit h)
    · next hopening =>
      rw [if_neg hopening] at hkind
      split at h
      · next hclosing =>
        rw [if_pos hclosing, here] at hkind
        obtain ⟨rfl, hcloses⟩ := hkind
        split at h
        · cases h
        · next b bs hbrackets =>
          split at h
          · exact .closing here (by simpa using hcloses) hbrackets (moved_of_emit h)
          · cases h
      · next hclosing =>
        rw [if_neg hclosing] at hkind
        have hlength : (s.cursor.rest.take n).length = n := List.length_take_of_le hle
        refine .plain _ (List.take_append_drop n s.cursor.rest).symm ?_ (by simpa using hkind)
          (hlength.symm ▸ moved_of_emit h)
        exact List.ne_nil_of_length_pos (by omega)

theorem special_cases : ∀ c ∈ special, isIndentation c = true ∨ c = '\n' ∨ c = '#' ∨
    (c = '"' ∨ c = '\'') ∨ c = '\\' ∨ c = '\r' ∨ isOpening c = true ∨ isClosing c = true := by
  simp [special, isIndentation, isOpening, isClosing]

/-- A step within a line moves over blanks and then goes on from a character that is none. -/
theorem nextToken_passage {s s' : LexState} {tokens : List Token} (h : s.nextToken = .next tokens s') :
    Passage { s with cursor := s.cursor.skipWhile isIndentation } s' := by
  unfold nextToken at h
  extract_lets t at h
  change Passage t s'
  have hblank : ∀ c ∈ t.cursor.rest.head?, isIndentation c = false := by
    intro c hc
    have hhead : (s.cursor.rest.dropWhile isIndentation).head? = some c := hc
    have hstop := List.head?_dropWhile_not isIndentation s.cursor.rest
    rwa [hhead] at hstop
  split at h
  · exact absurd h (atEnd_ne_next t)
  · next c cs hrest =>
    split at h
    · next hc =>
      subst hc
      cases h
      exact .comment hrest ⟨Cursor.skipWhile_eq _ t.cursor, rfl, rfl, rfl⟩
    split at h
    · next hc =>
      subst hc
      refine .lineEnd hrest ?_
      split at h <;> rw [← (LexStep.next.inj h).2] <;> exact ⟨rfl, rfl, rfl, rfl⟩
    split at h
    · next hnumber =>
      have hc : isPlain c = true := by
        rcases Bool.or_eq_true _ _ ▸ hnumber with hdigit | hpoint
        · exact Number.isPlain_of_isDigit hdigit
        · simp only [Bool.and_eq_true, beq_iff_eq] at hpoint
          exact hpoint.1 ▸ (by decide)
      split at h
      · next form n hread =>
        obtain ⟨left, taken, rfl, rfl, plain⟩ := (Number.read_plain c cs).takes form n (hrest ▸ hread)
        have moved := moved_of_emit h
        rw [Nat.add_comm] at moved
        exact .plain (c :: taken) hrest (by simp) (List.forall_mem_cons.2 ⟨hc, plain⟩) moved
      · cases h
    split at h
    · next hc => exact passage_wordToken hrest hc h
    split at h
    · next hc => exact passage_stringToken [] hrest (by simp) hc h
    split at h
    · next hc =>
      split at h
      · next hok =>
        cases h
        obtain ⟨d, ds, rfl, moved⟩ := continueLine_ok hok hrest
        exact .joined (hc ▸ hrest) moved
      · next herror => exact absurd h (continueLine_error herror)
    · refine passage_punctToken hrest (fun hmem => ?_) h
      have hc := hblank c (by rw [hrest]; rfl)
      rcases special_cases c hmem with hblank | hend | hmark | hquote | hslash | hother
      · simp [hblank] at hc
      all_goals first | contradiction | exact hother

/-! ## The start of a line -/

/-- The lexer has moved over blanks and over backslashes that join lines. -/
inductive Blanks : LexState → LexState → Prop
  | none (s : LexState) : Blanks s s
  | blank {s s' s'' : LexState} {c : Char} {cs : List Char} (here : s.cursor.rest = c :: cs)
      (blank : isIndentation c = true) (moved : s.Moved 1 s') (later : Blanks s' s'') : Blanks s s''
  | joined {s s' s'' : LexState} {c : Char} {cs : List Char} (here : s.cursor.rest = '\\' :: '\n' :: c :: cs)
      (moved : s.Moved 2 s') (later : Blanks s' s'') : Blanks s s''

theorem Blanks.moved {s s' : LexState} (h : Blanks s s') : ∃ n, s.Moved n s' := by
  induction h with
  | none s => exact ⟨0, rfl, rfl, rfl, rfl⟩
  | blank here blank moved later ih =>
    obtain ⟨n, hn⟩ := ih
    exact ⟨1 + n, moved.trans hn⟩
  | joined here moved later ih =>
    obtain ⟨n, hn⟩ := ih
    exact ⟨2 + n, moved.trans hn⟩

theorem blanks_indentation {fuel : Nat} {fixed : Option Nat} {i i' : Indent} {s s' : LexState}
    (h : indentation fuel fixed i s = .ok (i', s')) : Blanks s s' := by
  induction fuel generalizing fixed i s with
  | zero =>
    cases h
    exact .none _
  | succ fuel ih =>
    unfold indentation at h
    split at h
    · next c cs here =>
      split at h
      · next hc => exact .blank here hc (s.moved_move 1) (ih h)
      split at h
      · next hc =>
        dsimp only at h
        split at h
        · next t hjoined =>
          obtain ⟨d, ds, rfl, moved⟩ := continueLine_ok hjoined here
          have moved' : s.Moved 2 { t with before := 0 } :=
            ⟨moved.cursor, moved.lineStart, moved.indents, moved.brackets⟩
          exact .joined (hc ▸ here) moved' (ih h)
        · cases h
      · cases h
        exact .none _
    · cases h
      exact .none _

theorem indentation_error {fuel : Nat} {fixed : Option Nat} {i : Indent} {s s' : LexState} {e : LexStep}
    {tokens : List Token} (h : indentation fuel fixed i s = .error e) : e ≠ .next tokens s' := by
  induction fuel generalizing fixed i s with
  | zero => cases h
  | succ fuel ih =>
    unfold indentation at h
    split at h
    · split at h
      · exact ih h
      split at h
      · dsimp only at h
        split at h
        · exact ih h
        · next herror =>
          cases h
          exact continueLine_error herror
      · cases h
    · cases h

theorem move_move (s : LexState) (m n : Nat) : (s.move m).move n = s.move (m + n) := by
  simp only [move, Cursor.skip_skip]

/-- As long as there are only blanks, the measure is taken of them. -/
theorem indentation_of_blanks {bs rest : List Char} (blank : ∀ c ∈ bs, isIndentation c = true) {fuel : Nat}
    (fixed : Option Nat) (i : Indent) {s : LexState} (here : s.cursor.rest = bs ++ rest) :
    indentation (bs.length + fuel) fixed i s =
      indentation fuel fixed (bs.foldl Indent.step i) (s.move bs.length) := by
  induction bs generalizing i s with
  | nil => simp [move, Cursor.skip]
  | cons c bs ih =>
    have hrest : (s.move 1).cursor.rest = bs ++ rest := (s.moved_move 1).rest_of_append [c] here rfl
    have hmore := ih (fun d hd => blank d (List.mem_cons_of_mem c hd)) (i.step c) hrest
    rw [move_move, Nat.add_comm 1] at hmore
    rw [List.length_cons, Nat.add_right_comm, indentation.eq_def]
    simp only [here, List.cons_append, blank c (List.mem_cons_self ..), if_true]
    exact hmore

/-- The measure ends at a character that is neither a blank nor a backslash. -/
theorem indentation_stop_at {c : Char} {cs : List Char} {s : LexState} (here : s.cursor.rest = c :: cs)
    (hc : isIndentation c = false) (hslash : c ≠ '\\') {fuel : Nat} {i : Indent} :
    indentation (fuel + 1) none i s = .ok (i, s) := by
  rw [indentation.eq_def]
  simp [here, hc, hslash, indentation.settle]

/-- The levels that are open after a line that is indented as wide as `column`; none if it goes back
to no level. -/
def reindented (column : Nat) (levels : List Nat) : Option (List Nat) :=
  let current := levels.headD 0
  if current < column then some (column :: levels)
  else if column < current then
    if levels.contains column then some (levels.dropWhile fun i => decide (column < i)) else none
  else some levels

/-- How a line begins after its blanks. -/
inductive Opening (i : Indent) (s s' : LexState) : Prop
  | passed {c : Char} {cs : List Char} (here : s.cursor.rest = c :: cs) (empty : c = '#' ∨ c = '\n')
      (moved : s.Moved ((s.cursor.rest.takeWhile (· != '\n')).length + 1) s')
  | bracketed {c : Char} {cs : List Char} (here : s.cursor.rest = c :: cs) (code : ¬(c = '#' ∨ c = '\n'))
      (inside : s.brackets ≠ []) (moved : { s with lineStart := false }.Moved 0 s')
  | code {c : Char} {cs : List Char} {levels : List Indent} (here : s.cursor.rest = c :: cs)
      (code : ¬(c = '#' ∨ c = '\n')) (outside : s.brackets = [])
      (moved : { s with lineStart := false, indents := levels }.Moved 0 s')
      (measured : (∃ j ∈ s.indents, j.wide = 0) →
        reindented i.wide (s.indents.map Indent.wide) = some (levels.map Indent.wide) ∧ ∃ j ∈ levels, j.wide = 0)

theorem headD_map_wide (levels : List Indent) :
    (levels.map Indent.wide).headD 0 = (levels.headD Indent.zero).wide := by
  cases levels <;> rfl

/-- A level of width zero is never taken back. -/
theorem ground_dropWhile {levels : List Indent} {n : Nat} (ground : ∃ j ∈ levels, j.wide = 0) :
    ∃ j ∈ levels.dropWhile fun k => decide (n < k.wide), j.wide = 0 := by
  obtain ⟨j, hj, hzero⟩ := ground
  refine ⟨j, ?_, hzero⟩
  rw [← List.takeWhile_append_dropWhile (p := fun k => decide (n < k.wide)) (l := levels)] at hj
  rcases List.mem_append.1 hj with htaken | hdropped
  · have hwide := List.mem_takeWhile_imp htaken
    simp [hzero] at hwide
  · exact hdropped

theorem opening_indented {i : Indent} {s s' : LexState} {tokens : List Token} {c : Char} {cs : List Char}
    (here : s.cursor.rest = c :: cs) (code : ¬(c = '#' ∨ c = '\n')) (outside : s.brackets = [])
    (h : s.indented i = .next tokens s') : Opening i s s' := by
  unfold indented at h
  dsimp only at h
  split at h
  · next heq =>
    split at h
    · cases h
      refine .code here code outside ⟨rfl, rfl, rfl, rfl⟩ fun ground => ⟨?_, ground⟩
      rw [reindented, headD_map_wide, if_neg (by omega), if_neg (by omega)]
    · cases h
  · next hne =>
    split at h
    · next hdeeper =>
      split at h
      · cases h
      split at h
      · cases h
      · cases h
        refine .code here code outside ⟨rfl, rfl, rfl, rfl⟩ fun ground => ⟨?_, ?_⟩
        · rw [reindented, headD_map_wide, if_pos hdeeper, List.map_cons]
        · obtain ⟨j, hj, hzero⟩ := ground
          exact ⟨j, List.mem_cons_of_mem i hj, hzero⟩
    · next hback =>
      split at h
      · cases h
      split at h
      · cases h
      · next hwide _ =>
        cases h
        refine .code here code outside ⟨rfl, rfl, rfl, rfl⟩ fun ground => ⟨?_, ground_dropWhile ground⟩
        have hmem : i.wide ∈ s.indents.map Indent.wide := by
          obtain ⟨k, hk, -⟩ := ground_dropWhile (n := i.wide) ground
          obtain ⟨j, js, hj⟩ := List.exists_cons_of_ne_nil (List.ne_nil_of_mem hk)
          have hin : j ∈ s.indents := (List.dropWhile_sublist _).subset (hj ▸ List.mem_cons_self ..)
          rw [hj] at hwide
          exact List.mem_map.2 ⟨j, hin, (not_not.1 hwide).symm⟩
        rw [reindented, headD_map_wide, if_neg hback, if_pos (by omega),
          if_pos (by simpa using hmem), List.dropWhile_map]
        rfl

theorem startLine_opening {fuel : Nat} {s s' : LexState} {tokens : List Token}
    (h : s.startLine fuel = .next tokens s') :
    ∃ i t, indentation fuel none Indent.zero s = .ok (i, t) ∧ Opening i t s' := by
  unfold startLine at h
  split at h
  · next e herror => exact absurd h (indentation_error herror)
  · next i t hblanks =>
    refine ⟨i, t, hblanks, ?_⟩
    split at h
    · exact absurd h (atEnd_ne_next t)
    · next c cs here =>
      split at h
      · next hc =>
        cases h
        exact .passed here hc ((t.moved_skipWhile _).trans (moved_nextLine _ false))
      · next hc =>
        split at h
        · next hb => exact opening_indented here hc (List.isEmpty_iff.1 hb) h
        · next hb =>
          cases h
          exact .bracketed here hc (fun hnil => hb (List.isEmpty_iff.2 hnil)) ⟨rfl, rfl, rfl, rfl⟩

theorem Passage.indents {s s' : LexState} (h : Passage s s') : s'.indents = s.indents := by
  cases h with
  | comment here moved => exact moved.indents
  | lineEnd here moved => exact moved.indents
  | plain taken here some plain moved => exact moved.indents
  | opening here opens moved => exact moved.indents
  | closing here closes opened moved => exact moved.indents
  | short here plain quoted single ends moved => exact moved.indents
  | triple here plain quoted ends moved => exact moved.indents
  | joined here moved => exact moved.indents

theorem Opening.ground {i : Indent} {s s' : LexState} (h : Opening i s s') (ground : ∃ j ∈ s.indents, j.wide = 0) :
    ∃ j ∈ s'.indents, j.wide = 0 := by
  cases h with
  | passed here empty moved => exact moved.indents ▸ ground
  | bracketed here code inside moved => exact moved.indents ▸ ground
  | code here code outside moved measured => exact moved.indents ▸ (measured ground).2

/-- A level of width zero stays open. -/
theorem step_ground {fuel : Nat} {s s' : LexState} {tokens : List Token} (h : s.step fuel = .next tokens s')
    (ground : ∃ j ∈ s.indents, j.wide = 0) : ∃ j ∈ s'.indents, j.wide = 0 := by
  unfold step at h
  split at h
  · obtain ⟨i, t, hblanks, hopening⟩ := startLine_opening h
    obtain ⟨m, hm⟩ := (blanks_indentation hblanks).moved
    exact hopening.ground (hm.indents ▸ ground)
  · exact (nextToken_passage h).indents ▸ ground

/-! ## Progress -/

/-- A character is moved over once, and each line has a start. -/
def work (s : LexState) : Nat := 2 * s.cursor.rest.length + if s.lineStart then 1 else 0

theorem Passage.skips {s s' : LexState} (h : Passage s s') :
    ∃ n, s'.cursor = s.cursor.skip (n + 1) ∧ s.cursor.rest ≠ [] := by
  cases h with
  | comment here moved =>
    rw [here, List.takeWhile_cons_of_pos (by decide), List.length_cons] at moved
    exact ⟨_, moved.cursor, by simp [here]⟩
  | lineEnd here moved => exact ⟨0, moved.cursor, by simp [here]⟩
  | plain taken here some plain moved =>
    obtain ⟨c, cs, rfl⟩ := List.exists_cons_of_ne_nil some
    exact ⟨cs.length, moved.cursor, by simp [here]⟩
  | opening here opens moved => exact ⟨0, moved.cursor, by simp [here]⟩
  | closing here closes opened moved => exact ⟨0, moved.cursor, by simp [here]⟩
  | @short word body quote n here plain quoted single ends moved =>
    rw [Nat.add_right_comm] at moved
    exact ⟨word.length + n, moved.cursor, by simp [here]⟩
  | @triple word body quote n here plain quoted ends moved =>
    have hlength : word.length + 3 + n = word.length + 2 + n + 1 := by omega
    exact ⟨word.length + 2 + n, hlength ▸ moved.cursor, by simp [here]⟩
  | joined here moved => exact ⟨1, moved.cursor, by simp [here]⟩

/-- Where it goes on from its blanks, a line start is left behind or a line is passed over. -/
theorem Opening.skips {i : Indent} {s s' : LexState} (h : Opening i s s') :
    ∃ n, s'.cursor = s.cursor.skip n ∧ s.cursor.rest ≠ [] ∧
      (0 < n ∧ s'.lineStart = s.lineStart ∨ s'.lineStart = false) := by
  cases h with
  | passed here empty moved => exact ⟨_, moved.cursor, by simp [here], .inl ⟨by omega, moved.lineStart⟩⟩
  | bracketed here code inside moved => exact ⟨0, moved.cursor, by simp [here], .inr moved.lineStart⟩
  | code here code outside moved measured => exact ⟨0, moved.cursor, by simp [here], .inr moved.lineStart⟩

theorem line_le_of_skip {s s' : LexState} {n : Nat} (h : s'.cursor = s.cursor.skip n) :
    s.mark.line ≤ s'.mark.line := by
  rw [mark, mark, h, Cursor.skip_eq, Mark.line_advance]
  omega

theorem step_progress {fuel : Nat} {s s' : LexState} {tokens : List Token}
    (h : s.step fuel = .next tokens s') : s'.work < s.work ∧ s.mark.line ≤ s'.mark.line := by
  unfold step at h
  split at h
  · next hstart =>
    obtain ⟨i, t, hblanks, hopening⟩ := startLine_opening h
    obtain ⟨m, hm⟩ := (blanks_indentation hblanks).moved
    obtain ⟨n, hn, hne, hnext⟩ := hopening.skips
    have hlength := List.length_pos_of_ne_nil hne
    rw [hm.rest, List.length_drop] at hlength
    have hcursor : s'.cursor = s.cursor.skip (m + n) := by rw [hn, hm.cursor, Cursor.skip_skip]
    refine ⟨?_, line_le_of_skip hcursor⟩
    rw [work, work, hcursor, Cursor.rest_skip, List.length_drop, hstart]
    rcases hnext with ⟨hpos, hsame⟩ | hleft
    · rw [hsame, hm.lineStart, hstart]
      omega
    · rw [hleft]
      simp only [Bool.false_eq_true, if_false, if_true]
      omega
  · next hwithin =>
    obtain ⟨n, hn, hne⟩ := (nextToken_passage h).skips
    have hm := s.moved_skipWhile isIndentation
    have hlength := List.length_pos_of_ne_nil hne
    rw [hm.rest, List.length_drop] at hlength
    have hcursor : s'.cursor = s.cursor.skip ((s.cursor.rest.takeWhile isIndentation).length + (n + 1)) := by
      rw [hn, hm.cursor, Cursor.skip_skip]
    refine ⟨?_, line_le_of_skip hcursor⟩
    rw [work, work, hcursor, Cursor.rest_skip, List.length_drop, if_neg hwithin]
    split <;> omega

end LexState

end AwaitLint.Grammar
