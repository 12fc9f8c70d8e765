import AwaitLint.Proofs.ScanPlaces

/-! # The comments that the lexer passes over

The lexer passes over a comment without a token. Here its comments are collected along its run, with the
lines that it counts, and its steps are followed by the scan for comments: in a text without a lone `\r`
each of them is found by the scan under the same line, unless the scan has stopped before it. It stops
only at an indentation that is taken back to no level, and the parser accepts such a text only if a
backslash joins two lines inside the blanks of an indentation.
-/

namespace AwaitLint

open Text Comment

namespace Grammar

namespace LexState

/-- The comment at the lexer's place, with its line. -/
def commentHere (s : LexState) : Option (Nat × String) :=
  match s.cursor.rest with
  | '#' :: _ => some (s.mark.line, String.ofList (s.cursor.rest.takeWhile (· != '\n')))
  | _ => none

theorem commentHere_eq {s : LexState} {cs : List Char} (here : s.cursor.rest = '#' :: cs) :
    s.commentHere = some (s.mark.line, String.ofList (s.cursor.rest.takeWhile (· != '\n'))) := by
  simp [commentHere, here]

theorem commentHere_line {s : LexState} {e : Nat × String} (h : e ∈ s.commentHere) : e.1 = s.mark.line := by
  unfold commentHere at h
  split at h
  · cases h
    rfl
  · cases h

theorem commentHere_eq_none {s : LexState} {c : Char} {cs : List Char} (here : s.cursor.rest = c :: cs)
    (hc : c ≠ '#') : s.commentHere = none := by
  unfold commentHere
  split
  · next heq =>
    rw [here] at heq
    exact absurd (List.cons.inj heq).1 hc
  · rfl

/-- The comment that a step passes over. -/
def passed (fuel : Nat) (s : LexState) : Option (Nat × String) :=
  if s.lineStart then
    match indentation fuel none Indent.zero s with
    | .ok (_, t) => t.commentHere
    | .error _ => none
  else { s with cursor := s.cursor.skipWhile isIndentation }.commentHere

theorem line_le_of_passed {fuel : Nat} {s : LexState} {e : Nat × String} (h : e ∈ s.passed fuel) :
    s.mark.line ≤ e.1 := by
  unfold passed at h
  split at h
  · split at h
    · next i t hblanks =>
      obtain ⟨n, hn⟩ := (blanks_indentation hblanks).moved
      exact commentHere_line h ▸ line_le_of_skip hn.cursor
    · cases h
  · exact commentHere_line h ▸ line_le_of_skip (s.moved_skipWhile isIndentation).cursor

/-- The comments that the lexer passes over from a state on, step for step with `runFrom`. -/
def commentsFrom : Nat → LexState → List (Nat × String)
  | 0, _ => []
  | fuel + 1, s =>
    match s.step fuel with
    | .next _ s' => (s.passed fuel).toList ++ commentsFrom fuel s'
    | .done .. => []

end LexState

/-- The comments of a text, as the parser passes over them. -/
def comments (text : List Char) : List (Nat × String) :=
  let complete := completeLines text
  LexState.commentsFrom (3 * complete.length + 8) { cursor := ⟨complete, ⟨1, 0, 0⟩⟩, line := complete }

end Grammar

namespace Comment

open Grammar LexState

variable {ragged : Prop} {C : Comments} {s s' t : LexState} {σ σ' : Scan}

/-- Outside of strings the scan has as many open brackets as the lexer, and the same indentations unless
the text is ragged. -/
structure Follows (ragged : Prop) (s : LexState) (σ : Scan) : Prop where
  inString : σ.inString = none
  continued : σ.continued = false
  depth : σ.depth = s.brackets.length
  indents : ¬ragged → σ.indents = s.indents.map Indent.wide

namespace Follows

theorem moved (h : Follows ragged s σ) {n : Nat} (m : s.Moved n s') : Follows ragged s' σ where
  inString := h.inString
  continued := h.continued
  depth := by rw [m.brackets, h.depth]
  indents := by rw [m.indents]; exact h.indents

theorem record (h : Follows ragged s σ) (line : Int) (text : List Char) : Follows ragged s (σ.record line text) :=
  ⟨h.1, h.2, h.3, h.4⟩

theorem past (h : Follows ragged s σ) (p : σ.Past σ') : Follows ragged s σ' where
  inString := p.inString
  continued := p.continued.trans h.continued
  depth := p.depth.trans h.depth
  indents := fun hr => p.indents.trans (h.indents hr)

end Follows

/-- The scan stands where the lexer stands, within a line. -/
def InLine (ragged : Prop) (C : Comments) (s : LexState) : Prop :=
  ∃ σ, Follows ragged s σ ∧ Midway ragged C s.mark.line s.cursor.rest σ

/-- The scan stands where the lexer stands, at the start of a line. -/
def OnLine (ragged : Prop) (C : Comments) (s : LexState) : Prop :=
  ∃ σ, Follows ragged s σ ∧ AtLine ragged C s.mark.line s.cursor.rest σ

/-- The scan has stopped before it came to a line, which happens in ragged texts only. -/
def StoppedBy (ragged : Prop) (C : Comments) (line : Nat) : Prop :=
  ragged ∧ ∃ k ≤ line, C.stopped = some (.unindent k)

theorem StoppedBy.mono {line line' : Nat} (h : StoppedBy ragged C line) (hle : line ≤ line') :
    StoppedBy ragged C line' := by
  obtain ⟨hragged, k, hk, hstop⟩ := h
  exact ⟨hragged, k, hk.trans hle, hstop⟩

/-- Where the scan stands after a step from the start of a line. -/
def Entered (ragged : Prop) (C : Comments) (start : Bool) (s' : LexState) : Prop :=
  StoppedBy ragged C s'.mark.line ∨ OnLine ragged C s' ∧ s'.lineStart = start ∨
    InLine ragged C s' ∧ s'.lineStart = false

/-- A comment is found under its line, or the scan has stopped before it. -/
def Met (ragged : Prop) (C : Comments) (e : Nat × String) : Prop :=
  ((e.1 : Int), e.2) ∈ C.byLine ∨ StoppedBy ragged C e.1

theorem takeWhile_lineEnd {b t : List Char} (hb : '\n' ∉ b) : (b ++ '\n' :: t).takeWhile (· != '\n') = b := by
  have hinner : ∀ c ∈ b, (c != '\n') = true := by
    intro c hc
    simpa using ne_of_mem_of_not_mem hc hb
  rw [List.takeWhile_append_of_pos hinner, List.takeWhile_cons_of_neg (by simp), List.append_nil]

theorem exists_comment {C : Comments} {line : Nat} {rest cs : List Char} (place : Midway ragged C line rest σ)
    (here : rest = '#' :: cs) : ∃ b t, rest = '#' :: b ++ '\n' :: t ∧ '\n' ∉ '#' :: b := by
  obtain ⟨b, t, hparts, hb⟩ := place.exists_lineEnd
  cases b with
  | nil => cases here.symm.trans hparts
  | cons d b =>
    obtain ⟨rfl, -⟩ := List.cons.inj (here.symm.trans hparts)
    exact ⟨b, t, hparts, hb⟩

/-! ## Within a line -/

namespace InLine

variable {c : Char} {cs taken left : List Char} {n : Nat}

/-- The lexer moves over a stretch of the line and over `n` characters more. -/
theorem of_moved_add (taken : List Char) (n : Nat) (moved : s.Moved (taken.length + n) s')
    (here : s.cursor.rest = taken ++ left) (hend : '\n' ∉ taken) (follows : Follows ragged s σ)
    (place : Midway ragged C (s.mark.line + (left.take n).count '\n') (left.drop n) σ) : InLine ragged C s' := by
  refine ⟨σ, follows.moved moved, ?_⟩
  rw [moved.line, moved.rest, here, List.take_length_add_append, List.drop_length_add_append, List.count_append,
    List.count_eq_zero.2 hend, Nat.zero_add]
  exact place

theorem of_moved (taken : List Char) (moved : s.Moved taken.length s') (here : s.cursor.rest = taken ++ left)
    (hend : '\n' ∉ taken) (follows : Follows ragged s σ) (place : Midway ragged C s.mark.line left σ) :
    InLine ragged C s' :=
  of_moved_add taken 0 moved here hend follows place

theorem blanks (h : InLine ragged C s) (taken : List Char) (here : s.cursor.rest = taken ++ left)
    (blank : ∀ c ∈ taken, isIndentation c = true) (moved : s.Moved taken.length s') : InLine ragged C s' := by
  obtain ⟨σ, follows, place⟩ := h
  rw [here] at place
  exact of_moved taken moved here (lineEnd_not_mem rfl blank) follows (place.blanks blank)

theorem joined (h : InLine ragged C s) (here : s.cursor.rest = '\\' :: '\n' :: c :: cs) (moved : s.Moved 2 s') :
    InLine ragged C s' := by
  obtain ⟨σ, follows, place⟩ := h
  rw [here] at place
  have follows' : Follows ragged s { σ with continued := false } := ⟨follows.1, rfl, follows.3, follows.4⟩
  exact of_moved_add ['\\'] 1 moved here (by decide) follows' (place.joined follows.inString)

theorem plains (h : InLine ragged C s) (here : s.cursor.rest = taken ++ left)
    (plain : ∀ c ∈ taken, isPlain c = true) (moved : s.Moved taken.length s') : InLine ragged C s' := by
  obtain ⟨σ, follows, place⟩ := h
  rw [here] at place
  obtain ⟨σ', past, place'⟩ := place.plains plain follows.inString
  exact of_moved taken moved here (lineEnd_not_mem rfl plain) (follows.past past) place'

theorem opening (h : InLine ragged C s) {b : Bracket} (here : s.cursor.rest = c :: cs)
    (opens : isOpening c = true) (moved : { s with brackets := b :: s.brackets }.Moved 1 s') :
    InLine ragged C s' := by
  obtain ⟨σ, follows, place⟩ := h
  rw [here] at place
  have follows' : Follows ragged { s with brackets := b :: s.brackets } { σ.code with depth := σ.depth + 1 } :=
    ⟨follows.1, follows.2, by simp [follows.depth], follows.4⟩
  exact of_moved [c] moved here (lineEnd_not_mem rfl (by simpa using opens)) follows' (place.opening opens)

theorem closing (h : InLine ragged C s) {b : Bracket} {bs : List Bracket} (here : s.cursor.rest = c :: cs)
    (closes : isClosing c = true) (opened : s.brackets = b :: bs) (moved : { s with brackets := bs }.Moved 1 s') :
    InLine ragged C s' := by
  obtain ⟨σ, follows, place⟩ := h
  rw [here] at place
  have hdepth : σ.depth - 1 = bs.length := by rw [follows.depth, opened]; simp
  have follows' : Follows ragged { s with brackets := bs } { σ.code with depth := σ.depth - 1 } :=
    ⟨follows.1, follows.2, hdepth, follows.4⟩
  exact of_moved [c] moved here (lineEnd_not_mem rfl (by simpa using closes)) follows' (place.closing closes)

theorem not_mem_quoted {word : List Char} {quote d : Char} (plain : ∀ c ∈ word, isPlain c = true)
    (quoted : IsQuote quote) (hd : isPlain d = false) (hquote : ¬IsQuote d) : d ∉ word ++ [quote] := by
  intro hmem
  rcases List.mem_append.1 hmem with hword | hlast
  · simp [plain d hword] at hd
  · exact hquote (List.mem_singleton.1 hlast ▸ quoted)

theorem short (h : InLine ragged C s) {word body : List Char} {quote : Char}
    (here : s.cursor.rest = word ++ quote :: body) (plain : ∀ c ∈ word, isPlain c = true) (quoted : IsQuote quote)
    (single : ∀ rest, body ≠ quote :: quote :: rest) (ends : stringLength quote 1 0 0 body = some n)
    (moved : s.Moved (word.length + 1 + n) s') : InLine ragged C s' := by
  obtain ⟨σ, follows, place⟩ := h
  rw [here] at place
  obtain ⟨σ₁, past₁, place₁⟩ := place.plains plain follows.inString
  obtain ⟨σ₂, past₂, place₂⟩ := place₁.short quoted single ends past₁.inString
  have hlength : word.length + 1 = (word ++ [quote]).length := by simp
  have here' : s.cursor.rest = word ++ [quote] ++ body := by simpa using here
  exact of_moved_add _ n (hlength ▸ moved) here' (not_mem_quoted plain quoted rfl (by simp [IsQuote]))
    ((follows.past past₁).past past₂) place₂

theorem triple (h : InLine ragged C s) {word body : List Char} {quote : Char}
    (here : s.cursor.rest = word ++ quote :: quote :: quote :: body) (plain : ∀ c ∈ word, isPlain c = true)
    (quoted : IsQuote quote) (ends : stringLength quote 3 0 0 body = some n)
    (moved : s.Moved (word.length + 3 + n) s') : InLine ragged C s' := by
  obtain ⟨σ, follows, place⟩ := h
  rw [here] at place
  obtain ⟨σ₁, past₁, place₁⟩ := place.plains plain follows.inString
  obtain ⟨σ₂, past₂, place₂⟩ := place₁.triple quoted ends past₁.inString
  have hlength : word.length + 3 = (word ++ [quote] ++ [quote, quote]).length := by simp
  have here' : s.cursor.rest = word ++ [quote] ++ [quote, quote] ++ body := by simpa using here
  have hend : '\n' ∉ word ++ [quote] ++ [quote, quote] := by
    simpa using not_mem_quoted plain quoted rfl (by simp [IsQuote] : ¬IsQuote '\n')
  exact of_moved_add _ n (hlength ▸ moved) here' hend ((follows.past past₁).past past₂) place₂

/-- A comment that the lexer passes over is found. -/
theorem comment (h : InLine ragged C s) (here : s.cursor.rest = '#' :: cs)
    (moved : s.Moved (s.cursor.rest.takeWhile (· != '\n')).length s') :
    (∀ e ∈ s.commentHere, ((e.1 : Int), e.2) ∈ C.byLine) ∧ InLine ragged C s' := by
  obtain ⟨σ, follows, place⟩ := h
  obtain ⟨b, t, hparts, hb⟩ := exists_comment place here
  have htext : s.cursor.rest.takeWhile (· != '\n') = '#' :: b := hparts ▸ takeWhile_lineEnd hb
  rw [hparts] at place
  obtain ⟨found, place'⟩ := place.comment fun hmem => hb (List.mem_cons_of_mem _ hmem)
  rw [htext] at moved
  refine ⟨?_, of_moved ('#' :: b) moved hparts hb (follows.record _ _) place'⟩
  intro e he
  rw [commentHere_eq here, Option.mem_some_iff, htext] at he
  exact he ▸ found

theorem lineEnd (h : InLine ragged C s) (here : s.cursor.rest = '\n' :: cs) (moved : s.Moved 1 s') :
    OnLine ragged C s' := by
  obtain ⟨σ, follows, place⟩ := h
  rw [here] at place
  refine ⟨σ, follows.moved moved, ?_⟩
  rw [moved.line_of_append ['\n'] here rfl, moved.rest_of_append ['\n'] here rfl]
  exact place.lineEnd

theorem lineStart (h : InLine ragged C s) (start : Bool) : InLine ragged C { s with lineStart := start } := by
  obtain ⟨σ, follows, place⟩ := h
  exact ⟨σ, ⟨follows.1, follows.2, follows.3, follows.4⟩, place⟩

/-- A step of the lexer within a line. -/
theorem passage (h : InLine ragged C s) (p : Passage s s') :
    (∀ e ∈ s.commentHere, ((e.1 : Int), e.2) ∈ C.byLine) ∧
      (InLine ragged C s' ∧ s'.lineStart = s.lineStart ∨ OnLine ragged C s' ∧ s'.lineStart = true) := by
  have none_of (taken : List Char) {left : List Char} (here : s.cursor.rest = taken ++ left) (hne : taken ≠ [])
      (hmark : '#' ∉ taken) : ∀ e ∈ s.commentHere, ((e.1 : Int), e.2) ∈ C.byLine := by
    obtain ⟨d, ds, rfl⟩ := List.exists_cons_of_ne_nil hne
    rw [commentHere_eq_none here (fun hd => hmark (hd ▸ List.mem_cons_self ..))]
    simp
  have none_of_quoted {word body : List Char} {quote : Char} (here : s.cursor.rest = word ++ quote :: body)
      (plain : ∀ c ∈ word, isPlain c = true) (quoted : IsQuote quote) :
      ∀ e ∈ s.commentHere, ((e.1 : Int), e.2) ∈ C.byLine := by
    have here' : s.cursor.rest = word ++ [quote] ++ body := by simpa using here
    exact none_of _ here' (by simp) (not_mem_quoted plain quoted rfl (by simp [IsQuote]))
  cases p with
  | comment here moved =>
    obtain ⟨found, within⟩ := h.comment here moved
    exact ⟨found, .inl ⟨within, moved.lineStart⟩⟩
  | lineEnd here moved =>
    have next := (h.lineStart true).lineEnd here moved
    exact ⟨none_of ['\n'] here (by simp) (by decide), .inr ⟨next, moved.lineStart⟩⟩
  | plain taken here some plain moved =>
    have hmark : '#' ∉ taken := fun hmem => absurd (plain _ hmem) (by decide)
    exact ⟨none_of taken here some hmark, .inl ⟨h.plains here plain moved, moved.lineStart⟩⟩
  | @opening c cs b here opens moved =>
    have hmark : '#' ∉ [c] := fun hmem => absurd (List.mem_singleton.1 hmem ▸ opens) (by decide)
    exact ⟨none_of [c] here (by simp) hmark, .inl ⟨h.opening here opens moved, moved.lineStart⟩⟩
  | @closing c cs b bs here closes opened moved =>
    have hmark : '#' ∉ [c] := fun hmem => absurd (List.mem_singleton.1 hmem ▸ closes) (by decide)
    exact ⟨none_of [c] here (by simp) hmark, .inl ⟨h.closing here closes opened moved, moved.lineStart⟩⟩
  | short here plain quoted single ends moved =>
    exact ⟨none_of_quoted here plain quoted, .inl ⟨h.short here plain quoted single ends moved, moved.lineStart⟩⟩
  | triple here plain quoted ends moved =>
    exact ⟨none_of_quoted here plain quoted, .inl ⟨h.triple here plain quoted ends moved, moved.lineStart⟩⟩
  | joined here moved =>
    exact ⟨none_of ['\\'] here (by simp) (by decide), .inl ⟨h.joined here moved, moved.lineStart⟩⟩

theorem of_blanks (h : InLine ragged C s) (b : Blanks s s') : InLine ragged C s' := by
  induction b with
  | none s => exact h
  | @blank s s' s'' c cs here blank moved later ih =>
    exact ih (h.blanks [c] here (by simpa using blank) moved)
  | joined here moved later ih => exact ih (h.joined here moved)

/-- A line that belongs to what came before it: after its blanks it may be a comment, or empty. -/
theorem of_opening (h : InLine ragged C t) {i : Indent} (belongs : t.brackets ≠ [] ∨ ragged) (o : Opening i t s') :
    (∀ e ∈ t.commentHere, ((e.1 : Int), e.2) ∈ C.byLine) ∧ Entered ragged C t.lineStart s' := by
  have none_of {d : Char} {ds : List Char} (here : t.cursor.rest = d :: ds) (hd : d ≠ '#') :
      ∀ e ∈ t.commentHere, ((e.1 : Int), e.2) ∈ C.byLine := by
    rw [commentHere_eq_none here hd]
    simp
  cases o with
  | @passed c cs here empty moved =>
    rcases empty with rfl | rfl
    · obtain ⟨found, within⟩ := h.comment here (t.moved_move _)
      obtain ⟨σ, -, place⟩ := h
      obtain ⟨b, l, hparts, hb⟩ := exists_comment place here
      have htext : t.cursor.rest.takeWhile (· != '\n') = '#' :: b := hparts ▸ takeWhile_lineEnd hb
      have hrest := (t.moved_move _).rest_of_append _ hparts (congrArg List.length htext.symm)
      exact ⟨found, .inr (.inl ⟨within.lineEnd hrest moved.of_add, moved.lineStart⟩)⟩
    · rw [here, List.takeWhile_cons_of_neg (by simp)] at moved
      exact ⟨none_of here (by decide), .inr (.inl ⟨h.lineEnd here moved, moved.lineStart⟩)⟩
  | bracketed here code inside moved =>
    obtain ⟨σ, follows, place⟩ := h.lineStart false
    have next : InLine ragged C s' := of_moved [] moved rfl (by simp) follows place
    exact ⟨none_of here fun hd => code (.inl hd), .inr (.inr ⟨next, moved.lineStart⟩)⟩
  | @code c cs levels here code outside moved measured =>
    have hragged : ragged := belongs.resolve_left fun hne => hne outside
    obtain ⟨σ, follows, place⟩ := h
    have follows' : Follows ragged { t with lineStart := false, indents := levels } σ :=
      ⟨follows.1, follows.2, follows.3, fun hr => absurd hragged hr⟩
    have next : InLine ragged C s' := of_moved [] moved rfl (by simp) follows' place
    exact ⟨none_of here fun hd => code (.inl hd), .inr (.inr ⟨next, moved.lineStart⟩)⟩

end InLine

/-! ## At the start of a line -/

namespace OnLine

variable {c : Char} {cs bs : List Char} {i : Indent}

/-- Inside brackets the scan goes into the line at once. -/
theorem inLine (h : OnLine ragged C s) (hrest : s.cursor.rest ≠ []) (inside : s.brackets ≠ []) :
    InLine ragged C s := by
  obtain ⟨σ, follows, place⟩ := h
  obtain ⟨c, cs, here⟩ := List.exists_cons_of_ne_nil hrest
  have hdepth : ¬(σ.depth = 0 ∧ σ.continued = false) := by
    rintro ⟨hzero, -⟩
    have hlength := List.length_pos_of_ne_nil inside
    rw [follows.depth] at hzero
    omega
  refine ⟨{ σ with continued := false }, ⟨follows.1, rfl, follows.3, follows.4⟩, ?_⟩
  rw [here] at place ⊢
  exact place.midway follows.inString hdepth

theorem exists_blanks (h : OnLine ragged C s) (hrest : s.cursor.rest ≠ []) :
    ∃ bs c cs, s.cursor.rest = bs ++ c :: cs ∧ (∀ b ∈ bs, isIndentation b = true) ∧ isIndentation c = false := by
  obtain ⟨σ, -, place⟩ := h
  have hend : '\n' ∈ s.cursor.rest := place.lineEnd_mem hrest
  have hparts := List.takeWhile_append_dropWhile (p := isIndentation) (l := s.cursor.rest)
  have hne : s.cursor.rest.dropWhile isIndentation ≠ [] := by
    intro hnil
    rw [hnil, List.append_nil] at hparts
    rw [← hparts] at hend
    exact absurd (List.mem_takeWhile_imp hend) (by decide)
  obtain ⟨c, cs, hc⟩ := List.exists_cons_of_ne_nil hne
  refine ⟨s.cursor.rest.takeWhile isIndentation, c, cs, ?_, fun b hb => List.mem_takeWhile_imp hb, ?_⟩
  · rw [← hc, hparts]
  · have hstop := List.head?_dropWhile_not isIndentation s.cursor.rest
    rwa [hc] at hstop

theorem of_moved_line {b t : List Char} (moved : s.Moved (b.length + 1) s') (here' : s.cursor.rest = b ++ '\n' :: t)
    (hb : '\n' ∉ b) (follows : Follows ragged s σ) (place : AtLine ragged C (s.mark.line + 1) t σ) :
    OnLine ragged C s' := by
  have here : s.cursor.rest = (b ++ ['\n']) ++ t := by simpa using here'
  have hlength : (b ++ ['\n']).length = b.length + 1 := by simp
  have hcount : (b ++ ['\n']).count '\n' = 1 := by
    rw [List.count_append, List.count_eq_zero.2 hb]
    rfl
  refine ⟨σ, follows.moved moved, ?_⟩
  rw [moved.line_of_append _ here hlength, moved.rest_of_append _ here hlength, hcount]
  exact place

section Outside

variable (h : OnLine ragged C s) (outside : s.brackets = []) (here : s.cursor.rest = bs ++ c :: cs)
  (blank : ∀ b ∈ bs, isIndentation b = true) (hc : isIndentation c = false)

include h outside here blank hc

/-- At a line of code the scan stops, or it goes into the line. -/
theorem enter (hmark : c ≠ '#') (hend : c ≠ '\n') :
    ∃ σ, Follows ragged s σ ∧
      (C.stopped = some (.unindent s.mark.line) ∧ reindented (width bs) σ.indents = none ∨
      ∃ σ', Midway ragged C s.mark.line (c :: cs) σ' ∧ reindented (width bs) σ.indents = some σ'.indents ∧
        σ'.inString = none ∧ σ'.depth = s.brackets.length ∧ σ'.continued = false) := by
  obtain ⟨σ, follows, place⟩ := h
  rw [here] at place
  have hdepth : σ.depth = 0 ∧ σ.continued = false := ⟨by rw [follows.depth, outside]; rfl, follows.continued⟩
  refine ⟨σ, follows, ?_⟩
  rcases place.code follows.inString hdepth blank hc hmark hend with hstop | ⟨σ', place', hlevels, hs, hd, hcont⟩
  · exact .inl hstop
  · exact .inr ⟨σ', place', hlevels, hs, hd.trans follows.depth, hcont.trans follows.continued⟩

/-- A line that starts with a backslash: the scan may stop there, and goes on into the next line else. -/
theorem of_joined (hslash : c = '\\') :
    ragged ∧ (StoppedBy ragged C s.mark.line ∨ InLine ragged C (s.move bs.length)) := by
  have hragged : ragged := by
    obtain ⟨σ, -, place⟩ := h
    rw [here, hslash] at place
    exact place.ragged_of_joined blank
  refine ⟨hragged, ?_⟩
  obtain ⟨σ, follows, hstop | ⟨σ', place, -, hs, hd, hcont⟩⟩ :=
    h.enter outside here blank hc (by rw [hslash]; decide) (by rw [hslash]; decide)
  · exact .inl ⟨hragged, s.mark.line, le_rfl, hstop.1⟩
  · have follows' : Follows ragged s σ' := ⟨hs, hcont, hd, fun hr => absurd hragged hr⟩
    exact .inr (.of_moved bs (s.moved_move _) here (lineEnd_not_mem rfl blank) follows' place)

/-- A line that starts otherwise is passed over by both, or entered by both. -/
theorem of_opening (ground : ∃ j ∈ s.indents, j.wide = 0) (hi : i.wide = width bs)
    (o : Opening i (s.move bs.length) s') :
    (∀ e ∈ (s.move bs.length).commentHere, ((e.1 : Int), e.2) ∈ C.byLine) ∧ Entered ragged C s.lineStart s' := by
  have hblanks := s.moved_move bs.length
  have hend : '\n' ∉ bs := lineEnd_not_mem rfl blank
  have hrest : (s.move bs.length).cursor.rest = c :: cs := hblanks.rest_of_append bs here rfl
  have hline : (s.move bs.length).mark.line = s.mark.line := by
    rw [hblanks.line_of_append bs here rfl, List.count_eq_zero.2 hend, Nat.add_zero]
  have none_of (hc : c ≠ '#') :
      ∀ e ∈ (s.move bs.length).commentHere, ((e.1 : Int), e.2) ∈ C.byLine := by
    rw [commentHere_eq_none hrest hc]
    simp
  cases o with
  | @passed d ds here' empty moved =>
    obtain ⟨rfl, rfl⟩ := List.cons.inj (hrest.symm.trans here')
    obtain ⟨σ, follows, place⟩ := h
    have hdepth : σ.depth = 0 ∧ σ.continued = false := ⟨by rw [follows.depth, outside]; rfl, follows.continued⟩
    have hmem := place.lineEnd_mem (by simp [here])
    rw [here] at place hmem
    have whole := hblanks.trans moved
    rcases empty with rfl | rfl
    · obtain ⟨b, t, rfl, hb⟩ := List.eq_append_cons_of_mem (by simpa [hend] using hmem : '\n' ∈ cs)
      have hb' : '\n' ∉ '#' :: b := by simpa using hb
      have htext : (s.move bs.length).cursor.rest.takeWhile (· != '\n') = '#' :: b :=
        hrest ▸ takeWhile_lineEnd hb'
      obtain ⟨found, place'⟩ := place.comment follows.inString hdepth blank hb
      rw [htext, ← Nat.add_assoc, ← List.length_append] at whole
      have here'' : s.cursor.rest = bs ++ '#' :: b ++ '\n' :: t := by simpa using here
      have hend' : '\n' ∉ bs ++ '#' :: b := by simp [hend, hb]
      refine ⟨?_, .inr (.inl ⟨of_moved_line whole here'' hend' (follows.record _ _) place', moved.lineStart⟩)⟩
      intro e he
      rw [commentHere_eq hrest, Option.mem_some_iff, htext, hline] at he
      exact he ▸ found
    · rw [hrest, List.takeWhile_cons_of_neg (by simp)] at whole
      have place' := place.empty follows.inString hdepth blank
      exact ⟨none_of (by decide), .inr (.inl ⟨of_moved_line whole here hend follows place', moved.lineStart⟩)⟩
  | bracketed here' code inside moved => exact absurd outside inside
  | @code d ds levels here' code outside' moved measured =>
    obtain ⟨rfl, rfl⟩ := List.cons.inj (hrest.symm.trans here')
    obtain ⟨hlevels, -⟩ := measured ground
    rw [hi] at hlevels
    have hle : s.mark.line ≤ s'.mark.line := hline ▸ line_le_of_skip moved.cursor
    refine ⟨none_of fun hd => code (.inl hd), ?_⟩
    obtain ⟨σ, follows, ⟨hstop, hnone⟩ | ⟨σ', place, hsome, hs, hd, hcont⟩⟩ :=
      h.enter outside here blank hc (fun hd => code (.inl hd)) (fun hd => code (.inr hd))
    · have hragged : ragged := by
        by_contra hr
        rw [follows.indents hr] at hnone
        exact absurd (hnone.symm.trans hlevels) (by simp)
      exact .inl ⟨hragged, s.mark.line, hle, hstop⟩
    · have follows' : Follows ragged { s.move bs.length with lineStart := false, indents := levels } σ' := by
        refine ⟨hs, hcont, hd, fun hr => ?_⟩
        rw [follows.indents hr] at hsome
        exact Option.some.inj (hsome.symm.trans hlevels)
      rw [← hline, ← hrest] at place
      exact .inr (.inr ⟨.of_moved [] moved rfl (by simp) follows' place, moved.lineStart⟩)

end Outside

end OnLine

theorem OnLine.startLine {fuel : Nat} {tokens : List Token} (h : OnLine ragged C s)
    (ground : ∃ j ∈ s.indents, j.wide = 0) (hstart : s.lineStart = true) (hfuel : s.cursor.rest.length ≤ fuel)
    (hstep : s.startLine fuel = .next tokens s') :
    (∀ e ∈ s.passed fuel, Met ragged C e) ∧ Entered ragged C true s' := by
  obtain ⟨i, t, hin, hopening⟩ := startLine_opening hstep
  have hpassed : s.passed fuel = t.commentHere := by simp [passed, hstart, hin]
  obtain ⟨m, hm⟩ := (blanks_indentation hin).moved
  obtain ⟨n, hn, hne, -⟩ := hopening.skips
  have hrest : s.cursor.rest ≠ [] := by
    intro hnil
    rw [hm.rest, hnil, List.drop_nil] at hne
    exact hne rfl
  -- where the scan is already within the line, it stays beside the lexer to the end of its blanks
  have inside (within : InLine ragged C t) (belongs : t.brackets ≠ [] ∨ ragged) :
      (∀ e ∈ t.commentHere, Met ragged C e) ∧ Entered ragged C true s' := by
    obtain ⟨found, entered⟩ := within.of_opening belongs hopening
    rw [hm.lineStart, hstart] at entered
    exact ⟨fun e he => .inl (found e he), entered⟩
  rw [hpassed]
  by_cases outside : s.brackets = []
  · obtain ⟨bs, c, cs, here, blank, hc⟩ := h.exists_blanks hrest
    obtain ⟨f, rfl⟩ : ∃ f, fuel = bs.length + (f + 1) :=
      ⟨fuel - bs.length - 1, by simp [here] at hfuel; omega⟩
    rw [indentation_of_blanks blank none Indent.zero here] at hin
    by_cases hslash : c = '\\'
    · obtain ⟨hragged, hstop | within⟩ := h.of_joined outside here blank hc hslash
      · have hreached := hstop.mono (line_le_of_skip hm.cursor)
        exact ⟨fun e he => .inr (commentHere_line he ▸ hreached), .inl (hreached.mono (line_le_of_skip hn))⟩
      · exact inside (within.of_blanks (blanks_indentation hin)) (.inr hragged)
    · have hrest' : (s.move bs.length).cursor.rest = c :: cs := (s.moved_move _).rest_of_append bs here rfl
      rw [indentation_stop_at hrest' hc hslash] at hin
      obtain ⟨rfl, rfl⟩ := Prod.mk.inj (Except.ok.inj hin)
      obtain ⟨found, entered⟩ := h.of_opening outside here blank hc ground rfl hopening
      exact ⟨fun e he => .inl (found e he), hstart ▸ entered⟩
  · have within := (h.inLine hrest outside).of_blanks (blanks_indentation hin)
    exact inside within (.inl (hm.brackets ▸ outside))

/-! ## Along a run -/

/-- The scan stands where the lexer stands, or has stopped before. -/
structure Tracks (ragged : Prop) (C : Comments) (s : LexState) : Prop where
  ground : ∃ j ∈ s.indents, j.wide = 0
  place : StoppedBy ragged C s.mark.line ∨
    if s.lineStart = true then OnLine ragged C s else InLine ragged C s

namespace Tracks

variable {fuel : Nat} {tokens : List Token}

theorem step (h : Tracks ragged C s) (hfuel : s.cursor.rest.length ≤ fuel) (hstep : s.step fuel = .next tokens s') :
    (∀ e ∈ s.passed fuel, Met ragged C e) ∧ Tracks ragged C s' := by
  have ground := step_ground hstep h.ground
  rcases h.place with hstop | hplace
  · have hstop' := hstop.mono (step_progress hstep).2
    exact ⟨fun e he => .inr (hstop.mono (line_le_of_passed he)), ground, .inl hstop'⟩
  unfold LexState.step at hstep
  split at hstep
  · next hstart =>
    rw [if_pos hstart] at hplace
    obtain ⟨hmet, entered⟩ := hplace.startLine h.ground hstart hfuel hstep
    refine ⟨hmet, ground, ?_⟩
    rcases entered with hstop | ⟨on, hnext⟩ | ⟨within, hnext⟩
    · exact .inl hstop
    · rw [if_pos hnext]
      exact .inr on
    · rw [if_neg (by simp [hnext])]
      exact .inr within
  · next hwithin =>
    rw [if_neg hwithin] at hplace
    have hparts := List.takeWhile_append_dropWhile (p := isIndentation) (l := s.cursor.rest)
    have within := hplace.blanks _ hparts.symm (fun c hc => List.mem_takeWhile_imp hc)
      (s.moved_skipWhile isIndentation)
    obtain ⟨found, next⟩ := within.passage (nextToken_passage hstep)
    have hpassed : s.passed fuel = { s with cursor := s.cursor.skipWhile isIndentation }.commentHere := by
      simp [passed, hwithin]
    refine ⟨fun e he => .inl (found e (hpassed ▸ he)), ground, .inr ?_⟩
    rcases next with ⟨within', hnext⟩ | ⟨on, hnext⟩
    · rw [if_neg (by simpa [hnext] using hwithin)]
      exact within'
    · rw [if_pos hnext]
      exact on

/-- Every comment that the lexer passes over is found, unless the scan has stopped before it. -/
theorem run (h : Tracks ragged C s) (hfuel : s.work < fuel) : ∀ e ∈ commentsFrom fuel s, Met ragged C e := by
  induction fuel generalizing s with
  | zero => omega
  | succ fuel ih =>
    rw [commentsFrom]
    split
    · next tokens s' hstep =>
      have hlength : s.cursor.rest.length ≤ fuel := by
        unfold work at hfuel
        omega
      obtain ⟨hwork, -⟩ := step_progress hstep
      obtain ⟨hmet, htracks⟩ := h.step hlength hstep
      intro e he
      rcases List.mem_append.1 he with he | he
      · exact hmet e (Option.mem_toList.1 he)
      · exact ih htracks (by omega) e he
    · simp

end Tracks

end Comment

end AwaitLint
