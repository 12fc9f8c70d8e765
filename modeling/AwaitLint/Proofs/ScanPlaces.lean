import AwaitLint.Proofs.CommentRecords
import AwaitLint.Proofs.LexerSteps
import AwaitLint.Proofs.StringLines

/-! # Where a scan for comments stands

A scan stands at the start of a line (`AtLine`) or within one (`Midway`), and what the parser still reads
from there is the same text. For each kind of character this module says where the scan stands after it.
-/

namespace AwaitLint.Comment

open Text Grammar.LexState

/-! ## A step of the scan -/

section Step

variable {line fuel column : Nat} {word cs : List Char} {c : Char} {s : Scan}

theorem scanCode_blank (hc : Grammar.isIndentation c = true) :
    scanCode line (fuel + 1) column word (c :: cs) s = scanCode line fuel (column + 1) [] cs s := by
  have hblank : c = ' ' ∨ c = '\t' ∨ c = '\x0c' ∨ c = '\n' := by
    simp only [Grammar.isIndentation, Bool.or_eq_true, beq_iff_eq] at hc
    tauto
  rw [scanCode]
  dsimp only
  rw [if_pos hblank]
  rfl

/-- A line end changes nothing. -/
theorem scanCode_lineEnd {e : List Char} (ends : IsLineEnd e) : scanCode line fuel column word e s = s := by
  have hnil (f k : Nat) (w : List Char) : scanCode line f k w [] s = s := by
    cases f <;> rfl
  cases fuel with
  | zero => rfl
  | succ f =>
    rcases ends with rfl | rfl | rfl
    · exact hnil _ _ _
    · exact hnil _ _ _
    · exact hnil _ _ _

theorem scanCode_joined {e : List Char} (ends : IsLineEnd e) (hne : e ≠ []) :
    scanCode line (fuel + 1) column word ('\\' :: e) s = { s with continued := true } := by
  rcases ends with rfl | rfl | rfl
  · exact absurd rfl hne
  · rfl
  · rfl

theorem scanCode_plain (hc : isPlain c = true) :
    ∃ word', scanCode line (fuel + 1) column word (c :: cs) s =
      scanCode line fuel (column + 1) word' cs s.code := by
  refine ⟨wordWith c word, ?_⟩
  have hspecial : c ∉ special := by simpa [isPlain] using hc
  simp only [special, List.mem_cons, List.not_mem_nil, or_false, not_or] at hspecial
  rw [scanCode]
  simp [isQuote, hspecial]

theorem scanCode_opening (hc : isOpening c = true) :
    scanCode line (fuel + 1) column word (c :: cs) s =
      scanCode line fuel (column + 1) [] cs { s.code with depth := s.depth + 1 } := by
  simp only [isOpening, Bool.or_eq_true, beq_iff_eq] at hc
  rcases hc with (rfl | rfl) | rfl <;> rfl

theorem scanCode_closing (hc : isClosing c = true) :
    scanCode line (fuel + 1) column word (c :: cs) s =
      scanCode line fuel (column + 1) [] cs { s.code with depth := s.depth - 1 } := by
  simp only [isClosing, Bool.or_eq_true, beq_iff_eq] at hc
  rcases hc with (rfl | rfl) | rfl <;> rfl

theorem takeWhile_comment {b e : List Char} (inner : ∀ x ∈ b, IsInner x) (ends : IsLineEnd e) :
    (b ++ e).takeWhile (fun d => d != '\r' && d != '\n') = b := by
  have hend : e.takeWhile (fun d => d != '\r' && d != '\n') = [] := by
    rcases ends with rfl | rfl | rfl <;> rfl
  rw [List.takeWhile_append_of_pos, hend, List.append_nil]
  intro x hx
  obtain ⟨hreturn, hend⟩ := inner x hx
  simp [hreturn, hend]

theorem scanCode_comment {e : List Char} (inner : ∀ x ∈ '#' :: cs, IsInner x) (ends : IsLineEnd e) :
    scanCode line (fuel + 1) column word ('#' :: (cs ++ e)) s = s.record line ('#' :: cs) := by
  have htext : ('#' :: (cs ++ e)).takeWhile (fun d => d != '\r' && d != '\n') = '#' :: cs :=
    takeWhile_comment inner ends
  have hrest : ('#' :: (cs ++ e)).drop ('#' :: cs).length = e := by simp
  rw [scanCode]
  dsimp only
  rw [htext, hrest, scanCode_lineEnd ends]
  simp

theorem scanCode_short (hc : IsQuote c) (single : ∀ more, cs ≠ c :: c :: more) (line fuel column : Nat)
    (word : List Char) (s : Scan) :
    ∃ start, scanCode line (fuel + 1) column word (c :: cs) s =
      scanCode.short line start c cs s.code fun n s =>
        scanCode line fuel (column + n) [] ((c :: cs).drop n) s := by
  refine ⟨column - if isStringLetters word then word.length else 0, ?_⟩
  have other (a b : Char) (more : List Char) (hcs : cs = a :: b :: more) : ¬(a = c ∧ b = c) := by
    rintro ⟨rfl, rfl⟩
    exact single more hcs
  have hspecial : ¬(c = ' ' ∨ c = '\t' ∨ c = '\x0c' ∨ c = '\n') ∧ ¬(c = '\r' ∧ cs = ['\n']) ∧
      ¬(c = '\\' ∧ (cs = ['\n'] ∨ cs = ['\r', '\n'])) ∧ c ≠ '#' ∧ isQuote c = true := by
    rcases hc with rfl | rfl <;> simp [isQuote]
  obtain ⟨hblank, hreturn, hjoined, hcomment, hquote⟩ := hspecial
  rw [scanCode]
  dsimp only
  rw [if_neg hblank, if_neg hreturn, if_neg hjoined, if_neg hcomment, if_pos hquote]
  split
  · rw [if_neg (other _ _ _ rfl)]
  · rfl

theorem scanCode_triple (hc : IsQuote c) (line fuel column : Nat) (word cs : List Char) (s : Scan) :
    ∃ start, scanCode line (fuel + 1) column word (c :: c :: c :: cs) s =
      match tripleEnd c 3 cs with
      | some n => scanCode line fuel (column + n) [] ((c :: c :: c :: cs).drop n) s.code
      | none => { s with inString := some ⟨c, true, line, start⟩ } := by
  refine ⟨column - if isStringLetters word then word.length else 0, ?_⟩
  rcases hc with rfl | rfl
  · rfl
  · rfl

end Step

/-! ## Places -/

/-- Only blanks stand before the first backslash of a line. -/
def startsJoined (l : List Char) : Bool := (l.dropWhile Grammar.isIndentation).head? == some '\\'

/-- The scan that ends with `C` stands within line number `line`, and the parser reads `rest` from there.
`ragged` holds if a later line starts with a backslash. -/
inductive Midway (ragged : Prop) (C : Comments) (line : Nat) (rest : List Char) (s : Scan) : Prop
  | mk {cs : List Char} {ls : List (List Char)} {fuel column : Nat} {word : List Char}
      (lines : SameLines (cs :: ls) rest) (enough : cs.length < fuel)
      (joined : ∀ l ∈ ls, startsJoined l = true → ragged)
      (goes : C = scanLines (line + 1) ls (scanCode line fuel column word cs s))

/-- The scan that ends with `C` stands at the start of line number `line`. -/
inductive AtLine (ragged : Prop) (C : Comments) (line : Nat) (rest : List Char) (s : Scan) : Prop
  | mk {ls : List (List Char)} (lines : SameLines ls rest)
      (joined : ∀ l ∈ ls, startsJoined l = true → ragged) (goes : C = scanLines line ls s)

/-- The scan is outside of strings, with the same brackets and indentations as before. -/
structure Scan.Past (s s' : Scan) : Prop where
  inString : s'.inString = none
  depth : s'.depth = s.depth
  continued : s'.continued = s.continued
  indents : s'.indents = s.indents

namespace Midway

variable {ragged : Prop} {C : Comments} {line : Nat} {rest cs : List Char} {c : Char} {s s' : Scan}

/-- A character that takes the scan one column on. -/
theorem advance (h : Midway ragged C line (c :: rest) s) (hc : c ≠ '\n')
    (step : ∀ fuel column word cs, ∃ word',
      scanCode line (fuel + 1) column word (c :: cs) s = scanCode line fuel (column + 1) word' cs s') :
    Midway ragged C line rest s' := by
  obtain ⟨lines, enough, joined, goes⟩ := h
  next fuel column word =>
  obtain ⟨-, l, rfl, lines'⟩ := lines.of_cons hc
  obtain ⟨f, rfl⟩ : ∃ f, fuel = f + 1 := ⟨fuel - 1, by omega⟩
  obtain ⟨word', hstep⟩ := step f column word l
  exact ⟨lines', Nat.lt_of_succ_lt_succ enough, joined, hstep ▸ goes⟩

theorem blank (h : Midway ragged C line (c :: rest) s) (hc : Grammar.isIndentation c = true) :
    Midway ragged C line rest s :=
  h.advance (by rintro rfl; simp [Grammar.isIndentation] at hc) fun _ _ _ _ => ⟨[], scanCode_blank hc⟩

theorem blanks {bs : List Char} (h : Midway ragged C line (bs ++ rest) s)
    (blank : ∀ c ∈ bs, Grammar.isIndentation c = true) : Midway ragged C line rest s := by
  induction bs with
  | nil => exact h
  | cons c bs ih =>
    obtain ⟨hc, blank⟩ := List.forall_mem_cons.1 blank
    exact ih (h.blank hc) blank

theorem plain (h : Midway ragged C line (c :: rest) s) (hc : isPlain c = true) :
    Midway ragged C line rest s.code :=
  h.advance (by rintro rfl; simp [isPlain, special] at hc) fun _ _ _ _ => scanCode_plain hc

theorem plains {taken : List Char} (h : Midway ragged C line (taken ++ rest) s)
    (plain : ∀ c ∈ taken, isPlain c = true) (hs : s.inString = none) :
    ∃ s', s.Past s' ∧ Midway ragged C line rest s' := by
  induction taken generalizing s with
  | nil => exact ⟨s, ⟨hs, rfl, rfl, rfl⟩, h⟩
  | cons c taken ih =>
    obtain ⟨hc, plain⟩ := List.forall_mem_cons.1 plain
    obtain ⟨s', past, place⟩ := ih (h.plain hc) plain hs
    exact ⟨s', ⟨past.inString, past.depth, past.continued, past.indents⟩, place⟩

theorem opening (h : Midway ragged C line (c :: rest) s) (hc : isOpening c = true) :
    Midway ragged C line rest { s.code with depth := s.depth + 1 } :=
  h.advance (by rintro rfl; simp [isOpening] at hc) fun _ _ _ _ => ⟨[], scanCode_opening hc⟩

theorem closing (h : Midway ragged C line (c :: rest) s) (hc : isClosing c = true) :
    Midway ragged C line rest { s.code with depth := s.depth - 1 } :=
  h.advance (by rintro rfl; simp [isClosing] at hc) fun _ _ _ _ => ⟨[], scanCode_closing hc⟩

theorem lineEnd (h : Midway ragged C line ('\n' :: rest) s) : AtLine ragged C (line + 1) rest s := by
  obtain ⟨lines, enough, joined, goes⟩ := h
  obtain ⟨ends, -, lines'⟩ := lines.of_lineEnd
  rw [scanCode_lineEnd ends] at goes
  exact ⟨lines', joined, goes⟩

theorem exists_lineEnd (h : Midway ragged C line rest s) : ∃ b t, rest = b ++ '\n' :: t ∧ '\n' ∉ b := by
  obtain ⟨lines, -, -, -⟩ := h
  obtain ⟨b, -, t, -, hrest, inner, -⟩ := lines.exists_line
  exact ⟨b, t, hrest, fun hmem => (inner _ hmem).2 rfl⟩

/-- A comment is recorded, and nothing but the line end follows it. -/
theorem comment (h : Midway ragged C line ('#' :: cs ++ '\n' :: rest) s) (hcs : '\n' ∉ cs) :
    ((line : Int), String.ofList ('#' :: cs)) ∈ C.byLine ∧
      Midway ragged C line ('\n' :: rest) (s.record line ('#' :: cs)) := by
  obtain ⟨lines, enough, joined, goes⟩ := h
  next fuel column word =>
  obtain ⟨inner, e, rfl, lines'⟩ := lines.of_append (b := '#' :: cs) (by simpa using hcs)
  obtain ⟨ends, -, -⟩ := lines'.of_lineEnd
  obtain ⟨f, rfl⟩ : ∃ f, fuel = f + 1 := ⟨fuel - 1, by omega⟩
  rw [List.cons_append, scanCode_comment inner ends] at goes
  constructor
  · rw [goes]
    exact mem_scanLines_of_mem (Scan.mem_record.2 (.inl rfl)) (by omega)
  · have hrest : scanCode line (e.length + 1) 0 [] e (s.record line ('#' :: cs)) = s.record line ('#' :: cs) :=
      scanCode_lineEnd ends
    rw [← hrest] at goes
    exact ⟨lines', Nat.lt_succ_self _, joined, goes⟩

end Midway

/-- The scan goes into a line that belongs to what came before it. -/
theorem AtLine.midway {ragged : Prop} {C : Comments} {line : Nat} {rest : List Char} {c : Char} {s : Scan}
    (h : AtLine ragged C line (c :: rest) s) (hs : s.inString = none)
    (inside : ¬(s.depth = 0 ∧ s.continued = false)) :
    Midway ragged C line (c :: rest) { s with continued := false } := by
  obtain ⟨lines, joined, goes⟩ := h
  next ls =>
  cases ls with
  | nil => cases lines
  | cons l ls =>
    have hline : scanLine line l s =
        .ok (scanCode line (l.length + 1) 0 [] l { s with continued := false }) := by
      rw [scanLine, hs]
      dsimp only
      rw [if_neg inside]
    rw [scanLines, hline] at goes
    exact ⟨lines, Nat.lt_succ_self _, fun x hx => joined x (List.mem_cons_of_mem l hx), goes⟩

/-- A backslash at the end of a line leads into the next line. -/
theorem Midway.joined {ragged : Prop} {C : Comments} {line : Nat} {rest : List Char} {c : Char} {s : Scan}
    (h : Midway ragged C line ('\\' :: '\n' :: c :: rest) s) (hs : s.inString = none) :
    Midway ragged C (line + 1) (c :: rest) { s with continued := false } := by
  obtain ⟨lines, enough, joined, goes⟩ := h
  next ls fuel column word =>
  obtain ⟨-, e, rfl, lines'⟩ := lines.of_cons (by decide)
  obtain ⟨ends, last, lines''⟩ := lines'.of_lineEnd
  have hne : e ≠ [] := SameLines.lineEnd_ne_nil last lines'' (List.cons_ne_nil c rest)
  obtain ⟨f, rfl⟩ : ∃ f, fuel = f + 1 := ⟨fuel - 1, by omega⟩
  rw [scanCode_joined ends hne] at goes
  have next : AtLine ragged C (line + 1) (c :: rest) { s with continued := true } := ⟨lines'', joined, goes⟩
  exact next.midway hs (by simp)

/-! ## Strings -/

section Strings

variable {ragged : Prop} {C : Comments} {line : Nat} {s : Scan} {o : OpenString} {text : List Char}

theorem scanLine_closed (hs : s.inString = some o) {k : Nat} (hend : o.end? text = some k) :
    scanLine line text s =
      .ok (scanCode line (text.length + 1) k [] (text.drop k) { s.code with inString := none }) := by
  unfold OpenString.end? at hend
  simp only [scanLine, hs, hend]

theorem scanLine_open (hs : s.inString = some o) (hend : o.end? text = none)
    (hjoined : o.triple = false → endsJoined text = true) : scanLine line text s = .ok s := by
  unfold OpenString.end? at hend
  simp only [scanLine, hs, hend]
  rw [if_neg]
  intro hstop
  obtain ⟨hsingle, hends⟩ : o.triple = false ∧ endsJoined text = false := by simpa using hstop
  exact absurd (hjoined hsingle) (by simp [hends])

/-- A place within a line, counted from its start. -/
theorem Midway.of_drop {b e t : List Char} {ls : List (List Char)} {fuel column k : Nat} {word : List Char}
    (lines : SameLines ((b ++ e) :: ls) (b ++ '\n' :: t)) (inner : ∀ c ∈ b, IsInner c) (hk : k ≤ b.length)
    (enough : ((b ++ e).drop k).length < fuel) (joined : ∀ l ∈ ls, startsJoined l = true → ragged)
    (goes : C = scanLines (line + 1) ls (scanCode line fuel column word ((b ++ e).drop k) s)) :
    Midway ragged C (line + ((b ++ '\n' :: t).take k).count '\n') ((b ++ '\n' :: t).drop k) s := by
  have htake : (b ++ '\n' :: t).take k = b.take k := List.take_append_of_le_length hk
  have hend : '\n' ∉ b.take k := fun hmem => (inner _ (List.mem_of_mem_take hmem)).2 rfl
  rw [htake, List.count_eq_zero.2 hend]
  exact ⟨lines.drop (by simp; omega) (htake ▸ hend), enough, joined, goes⟩

/-- A place in a later line, counted from the start of this one. -/
theorem Midway.of_later {b t : List Char} {k : Nat} (inner : ∀ c ∈ b, IsInner c)
    (place : Midway ragged C (line + 1 + (t.take k).count '\n') (t.drop k) s) :
    Midway ragged C (line + ((b ++ '\n' :: t).take (b.length + 1 + k)).count '\n')
      ((b ++ '\n' :: t).drop (b.length + 1 + k)) s := by
  have hparts : b ++ '\n' :: t = (b ++ ['\n']) ++ t := by simp
  have hlength : (b ++ ['\n']).length = b.length + 1 := by simp
  have hcount : (b ++ ['\n']).count '\n' = 1 := by
    rw [List.count_append, List.count_eq_zero.2 fun hmem => (inner _ hmem).2 rfl]
    rfl
  rw [hparts, ← hlength, List.take_length_add_append, List.drop_length_add_append, List.count_append,
    hcount, ← Nat.add_assoc]
  exact place

/-- A string that is open at the start of a line ends where the parser says. -/
theorem midway_of_open (h : IsQuote o.quote) {ls : List (List Char)} {t : List Char} (lines : SameLines ls t)
    (joined : ∀ l ∈ ls, startsJoined l = true → ragged) {n m : Nat}
    (ends : stringLength o.quote o.size 0 n t = some m) (hs : s.inString = some o)
    (goes : C = scanLines line ls s) :
    ∃ k s', m = n + k ∧ s.Past s' ∧
      Midway ragged C (line + (t.take k).count '\n') (t.drop k) s' := by
  induction lines generalizing n line with
  | nil => exact absurd rfl (ne_nil_of_stringLength o.size_ne_zero ends)
  | @line b e ls t inner ends' last rest ih =>
    have joined' : ∀ l ∈ ls, startsJoined l = true → ragged := fun l hl =>
      joined l (List.mem_cons_of_mem _ hl)
    rcases o.end_or_goes_on h inner ends with ⟨k, hk, hm, hclosed⟩ | ⟨hmore, hopen⟩
    · rw [scanLines, scanLine_closed hs (hclosed e)] at goes
      refine ⟨k, { s.code with inString := none }, hm, ⟨rfl, rfl, rfl, rfl⟩, ?_⟩
      exact .of_drop (.line inner ends' last rest) inner hk (by rw [List.length_drop]; omega) joined' goes
    · have hne : e ≠ [] := SameLines.lineEnd_ne_nil last rest (ne_nil_of_stringLength o.size_ne_zero hmore)
      obtain ⟨hnone, hjoined⟩ := hopen e ends'
      rw [scanLines, scanLine_open hs hnone (hjoined hne)] at goes
      obtain ⟨k, s', hm, past, place⟩ := ih joined' hmore goes
      exact ⟨b.length + 1 + k, s', by omega, past, .of_later inner place⟩

variable {rest : List Char} {quote : Char}

/-- A string with one quote on either side. -/
theorem Midway.short (h : Midway ragged C line (quote :: rest) s) (hq : IsQuote quote)
    (single : ∀ more, rest ≠ quote :: quote :: more) {n : Nat} (ends : stringLength quote 1 0 0 rest = some n)
    (hs : s.inString = none) :
    ∃ s', s.Past s' ∧ Midway ragged C (line + (rest.take n).count '\n') (rest.drop n) s' := by
  obtain ⟨lines, enough, joined, goes⟩ := h
  next ls fuel column word =>
  obtain ⟨-, l, rfl, lines'⟩ := lines.of_cons hq.inner.2
  obtain ⟨f, rfl⟩ : ∃ f, fuel = f + 1 := ⟨fuel - 1, by omega⟩
  have single' (more : List Char) : l ≠ quote :: quote :: more := by
    rintro rfl
    obtain ⟨t, rfl, lines''⟩ := lines'.cons_line hq.inner
    obtain ⟨t, rfl, -⟩ := lines''.cons_line hq.inner
    exact single t rfl
  obtain ⟨start, hstep⟩ := scanCode_short hq single' line f column word s
  rw [hstep, scanCode.short] at goes
  obtain ⟨b, e, t, rfl, rfl, inner, ends', last, rest'⟩ := lines'.exists_line
  rcases ends_or_joined hq inner ends with ⟨k, hk, rfl, hclosed⟩ | ⟨hmore, b', -, hjoined⟩
  · rw [(hclosed e 1).1, Nat.add_comm 1 k] at goes
    rw [Nat.zero_add]
    refine ⟨s.code, ⟨hs, rfl, rfl, rfl⟩, ?_⟩
    exact .of_drop lines' inner hk (by rw [List.length_drop]; simp at enough; simp; omega) joined goes
  · have hne : e ≠ [] := SameLines.lineEnd_ne_nil last rest' (ne_nil_of_stringLength (by decide) hmore)
    rw [(hjoined e ends' 1).1 hne] at goes
    obtain ⟨k, s', rfl, past, place⟩ :=
      midway_of_open (o := ⟨quote, false, line, start⟩) hq rest' joined hmore rfl goes
    rw [Nat.zero_add]
    exact ⟨s', ⟨past.inString, past.depth, past.continued, past.indents⟩, .of_later inner place⟩

/-- A string with three quotes on either side. -/
theorem Midway.triple (h : Midway ragged C line (quote :: quote :: quote :: rest) s) (hq : IsQuote quote)
    {n : Nat} (ends : stringLength quote 3 0 0 rest = some n) (hs : s.inString = none) :
    ∃ s', s.Past s' ∧ Midway ragged C (line + (rest.take n).count '\n') (rest.drop n) s' := by
  obtain ⟨lines, enough, joined, goes⟩ := h
  next ls fuel column word =>
  obtain ⟨-, l, rfl, lines₁⟩ := lines.of_cons hq.inner.2
  obtain ⟨-, l, rfl, lines₂⟩ := lines₁.of_cons hq.inner.2
  obtain ⟨-, l, rfl, lines₃⟩ := lines₂.of_cons hq.inner.2
  obtain ⟨f, rfl⟩ : ∃ f, fuel = f + 1 := ⟨fuel - 1, by omega⟩
  obtain ⟨start, hstep⟩ := scanCode_triple hq line f column word l s
  rw [hstep] at goes
  obtain ⟨b, e, t, rfl, rfl, inner, ends', last, rest'⟩ := lines₃.exists_line
  have hcases := ends_or_goes_on hq inner (by decide : 0 < 3) ends
  simp only [List.replicate_zero, List.nil_append, Nat.add_zero] at hcases
  rcases hcases with ⟨k, hk, rfl, hclosed⟩ | ⟨hmore, hopen⟩
  · rw [hclosed e 3, Nat.add_comm 3 k] at goes
    rw [Nat.zero_add]
    refine ⟨s.code, ⟨hs, rfl, rfl, rfl⟩, ?_⟩
    exact .of_drop lines₃ inner hk (by rw [List.length_drop]; simp at enough; simp; omega) joined goes
  · rw [hopen e ends' 3] at goes
    obtain ⟨k, s', rfl, past, place⟩ :=
      midway_of_open (o := ⟨quote, true, line, start⟩) hq rest' joined hmore rfl goes
    rw [Nat.zero_add]
    exact ⟨s', ⟨past.inString, past.depth, past.continued, past.indents⟩, .of_later inner place⟩

end Strings

/-! ## Line starts outside of brackets -/

theorem wholeComment_append {b e : List Char} (inner : ∀ c ∈ b, IsInner c) (ends : IsLineEnd e) :
    wholeComment (b ++ e) = b := by
  have hend : ∀ c ∈ e.reverse, (c == '\r' || c == '\n') = true := by
    rcases ends with rfl | rfl | rfl <;> simp
  have hinner : b.reverse.dropWhile (fun c => c == '\r' || c == '\n') = b.reverse := by
    rw [List.dropWhile_eq_self_iff]
    intro hlength
    obtain ⟨hreturn, hend⟩ := inner _ (List.mem_reverse.1 (List.getElem_mem hlength))
    simp only [Bool.or_eq_true, beq_iff_eq, not_or]
    exact ⟨hreturn, hend⟩
  rw [wholeComment, List.reverse_append, List.dropWhile_append_of_pos hend, hinner, List.reverse_reverse]

/-- Both scanners measure blanks alike. -/
theorem indentation_blanks {bs : List Char} (blank : ∀ c ∈ bs, Grammar.isIndentation c = true)
    (i : Grammar.Indent) (n : Nat) (cs : List Char) :
    indentation i.wide n (bs ++ cs) = indentation (bs.foldl Grammar.Indent.step i).wide (n + bs.length) cs := by
  induction bs generalizing i n with
  | nil => rfl
  | cons c bs ih =>
    obtain ⟨hc, blank⟩ := List.forall_mem_cons.1 blank
    have hstep : indentation i.wide n (c :: (bs ++ cs)) = indentation (i.step c).wide (n + 1) (bs ++ cs) := by
      simp only [Grammar.isIndentation, Bool.or_eq_true, beq_iff_eq] at hc
      rcases hc with (rfl | rfl) | rfl <;> rfl
    rw [List.cons_append, hstep, ih blank, List.foldl_cons, List.length_cons, Nat.add_assoc, Nat.add_comm 1]

theorem indentation_stop {cs : List Char} (hcs : ∀ c ∈ cs.head?, Grammar.isIndentation c = false) (column n : Nat) :
    indentation column n cs = (column, n) := by
  rw [indentation.eq_def]
  split <;> first | rfl | exact absurd (hcs _ rfl) (by decide)

/-- How far a line is indented. -/
def width (bs : List Char) : Nat := (bs.foldl Grammar.Indent.step Grammar.Indent.zero).wide

section LineStart

variable {ragged : Prop} {C : Comments} {line : Nat} {s : Scan} {bs l cs rest : List Char} {c : Char}

theorem indentation_eq (blank : ∀ c ∈ bs, Grammar.isIndentation c = true)
    (hl : ∀ c ∈ l.head?, Grammar.isIndentation c = false) :
    indentation 0 0 (bs ++ l) = (width bs, bs.length) := by
  have h := indentation_blanks blank Grammar.Indent.zero 0 l
  rw [indentation_stop hl, Nat.zero_add] at h
  exact h

theorem scanLine_empty (hs : s.inString = none) (outside : s.depth = 0 ∧ s.continued = false)
    (blank : ∀ c ∈ bs, Grammar.isIndentation c = true) (ends : IsLineEnd l) :
    scanLine line (bs ++ l) s = .ok s := by
  have hl : ∀ c ∈ l.head?, Grammar.isIndentation c = false := by
    rcases ends with rfl | rfl | rfl <;> simp [Grammar.isIndentation]
  simp only [scanLine, hs, if_pos outside, indentation_eq blank hl, List.drop_left]
  rcases ends with rfl | rfl | rfl <;> rfl

theorem scanLine_comment (hs : s.inString = none) (outside : s.depth = 0 ∧ s.continued = false)
    (blank : ∀ c ∈ bs, Grammar.isIndentation c = true) (inner : ∀ c ∈ '#' :: cs, IsInner c) (ends : IsLineEnd l) :
    scanLine line (bs ++ ('#' :: cs ++ l)) s = .ok (s.record line ('#' :: cs)) := by
  have hl : ∀ c ∈ ('#' :: cs ++ l).head?, Grammar.isIndentation c = false := by
    simp [Grammar.isIndentation]
  have hwhole : wholeComment ('#' :: (cs ++ l)) = '#' :: cs := wholeComment_append inner ends
  simp only [scanLine, hs, if_pos outside, indentation_eq blank hl, List.drop_left]
  rw [List.cons_append]
  dsimp only
  rw [if_pos rfl, hwhole]

/-- A line of code is indented as one of the levels that are open, or further; else the scan stops. -/
theorem scanLine_code (hs : s.inString = none) (outside : s.depth = 0 ∧ s.continued = false)
    (blank : ∀ c ∈ bs, Grammar.isIndentation c = true) (hc : Grammar.isIndentation c = false)
    (code : c ≠ '#') (inner : IsInner c) (line : Nat) (cs : List Char) :
    scanLine line (bs ++ c :: cs) s = .error (.unindent line) ∧ reindented (width bs) s.indents = none ∨
    ∃ s', scanLine line (bs ++ c :: cs) s =
        .ok (scanCode line ((bs ++ c :: cs).length + 1) bs.length [] (c :: cs) s') ∧
      reindented (width bs) s.indents = some s'.indents ∧ s'.inString = none ∧ s'.depth = s.depth ∧
      s'.continued = s.continued := by
  have hl : ∀ d ∈ (c :: cs).head?, Grammar.isIndentation d = false := by simpa using hc
  simp only [scanLine, hs, if_pos outside, indentation_eq blank hl, List.drop_left, if_neg code]
  rw [if_neg (by simp [inner.1, inner.2])]
  unfold reindented
  dsimp only
  split
  · exact .inr ⟨{ s.code with indents := width bs :: s.indents }, rfl, rfl, hs, rfl, rfl⟩
  split
  · split
    · exact .inr ⟨{ s.code with indents := s.indents.dropWhile fun i => decide (width bs < i) },
        rfl, rfl, hs, rfl, rfl⟩
    · exact .inl ⟨rfl, rfl⟩
  · exact .inr ⟨s, rfl, rfl, hs, rfl, rfl⟩

namespace AtLine

/-- The first line and its blanks. -/
theorem exists_line (h : AtLine ragged C line (bs ++ c :: rest) s)
    (blank : ∀ c ∈ bs, Grammar.isIndentation c = true) :
    ∃ l ls, SameLines (l :: ls) (c :: rest) ∧ (∀ x ∈ (bs ++ l) :: ls, startsJoined x = true → ragged) ∧
      C = scanLines line ((bs ++ l) :: ls) s := by
  obtain ⟨lines, joined, goes⟩ := h
  next ls =>
  cases ls with
  | nil => cases bs <;> cases lines
  | cons l ls =>
    obtain ⟨-, l', rfl, lines'⟩ := lines.of_append (lineEnd_not_mem rfl blank)
    exact ⟨l', ls, lines', joined, goes⟩

theorem lineEnd_mem (h : AtLine ragged C line rest s) (hrest : rest ≠ []) : '\n' ∈ rest := by
  obtain ⟨lines, -, -⟩ := h
  next ls =>
  cases ls with
  | nil =>
    cases lines
    exact absurd rfl hrest
  | cons l ls =>
    obtain ⟨b, -, t, -, rfl, -⟩ := lines.exists_line
    simp

theorem empty (h : AtLine ragged C line (bs ++ '\n' :: rest) s) (hs : s.inString = none)
    (outside : s.depth = 0 ∧ s.continued = false) (blank : ∀ c ∈ bs, Grammar.isIndentation c = true) :
    AtLine ragged C (line + 1) rest s := by
  obtain ⟨l, ls, lines, joined, goes⟩ := h.exists_line blank
  obtain ⟨ends, -, lines'⟩ := lines.of_lineEnd
  rw [scanLines, scanLine_empty hs outside blank ends] at goes
  exact ⟨lines', fun x hx => joined x (List.mem_cons_of_mem _ hx), goes⟩

theorem comment (h : AtLine ragged C line (bs ++ ('#' :: cs ++ '\n' :: rest)) s) (hs : s.inString = none)
    (outside : s.depth = 0 ∧ s.continued = false) (blank : ∀ c ∈ bs, Grammar.isIndentation c = true)
    (hcs : '\n' ∉ cs) :
    ((line : Int), String.ofList ('#' :: cs)) ∈ C.byLine ∧
      AtLine ragged C (line + 1) rest (s.record line ('#' :: cs)) := by
  obtain ⟨l, ls, lines, joined, goes⟩ := h.exists_line blank
  obtain ⟨inner, e, rfl, lines'⟩ := lines.of_append (b := '#' :: cs) (by simpa using hcs)
  obtain ⟨ends, -, lines''⟩ := lines'.of_lineEnd
  rw [scanLines, scanLine_comment hs outside blank inner ends] at goes
  refine ⟨?_, lines'', fun x hx => joined x (List.mem_cons_of_mem _ hx), goes⟩
  rw [goes]
  exact mem_scanLines_of_mem (Scan.mem_record.2 (.inl rfl)) (by omega)

/-- At a line of code the scan stops, or it goes into the line with the levels that are open then. -/
theorem code (h : AtLine ragged C line (bs ++ c :: rest) s) (hs : s.inString = none)
    (outside : s.depth = 0 ∧ s.continued = false) (blank : ∀ c ∈ bs, Grammar.isIndentation c = true)
    (hc : Grammar.isIndentation c = false) (mark : c ≠ '#') (hend : c ≠ '\n') :
    C.stopped = some (.unindent line) ∧ reindented (width bs) s.indents = none ∨
    ∃ s', Midway ragged C line (c :: rest) s' ∧ reindented (width bs) s.indents = some s'.indents ∧
      s'.inString = none ∧ s'.depth = s.depth ∧ s'.continued = s.continued := by
  obtain ⟨l, ls, lines, joined, goes⟩ := h.exists_line blank
  obtain ⟨inner, l', rfl, -⟩ := lines.of_cons hend
  rw [scanLines] at goes
  rcases scanLine_code hs outside blank hc mark inner line l' with ⟨hline, hnone⟩ | ⟨s', hline, hlevels, same⟩
  · rw [hline] at goes
    exact .inl ⟨goes ▸ rfl, hnone⟩
  · rw [hline] at goes
    refine .inr ⟨s', ⟨lines, ?_, fun x hx => joined x (List.mem_cons_of_mem _ hx), goes⟩, hlevels, same⟩
    rw [List.length_append]
    omega

/-- A line that starts with a backslash makes the text ragged. -/
theorem ragged_of_joined (h : AtLine ragged C line (bs ++ '\\' :: rest) s)
    (blank : ∀ c ∈ bs, Grammar.isIndentation c = true) : ragged := by
  obtain ⟨l, ls, lines, joined, -⟩ := h.exists_line blank
  obtain ⟨-, l', rfl, -⟩ := lines.of_cons (by decide)
  refine joined _ (List.mem_cons_self ..) ?_
  rw [startsJoined, List.dropWhile_append_of_pos blank]
  rfl

end AtLine

end LineStart

end AwaitLint.Comment
