import AwaitLint.Comment.Scan
import AwaitLint.Grammar.Lexer
import Mathlib.Data.List.Basic

/-! # Lines as they are written and as they are parsed

The comments of a text are looked for in its lines as they are written, which end at `\n`. The parser
reads the text with all line ends alike. If every `\r` has a `\n` behind it, both see the same lines.
-/

namespace AwaitLint

/-- Every `\r` has a `\n` behind it. -/
def Text.returnsPaired : List Char → Bool
  | [] => true
  | '\r' :: '\n' :: cs => returnsPaired cs
  | c :: cs => c != '\r' && returnsPaired cs

/-- A character that ends no line. -/
def Text.IsInner (c : Char) : Prop := c ≠ '\r' ∧ c ≠ '\n'

/-- How a line that is written may end; only the last one may lack its end. -/
def Text.IsLineEnd (e : List Char) : Prop := e = [] ∨ e = ['\n'] ∨ e = ['\r', '\n']

open Text

theorem Text.IsLineEnd.not_mem {e : List Char} (ends : IsLineEnd e) {c : Char} (hc : IsInner c) : c ∉ e := by
  obtain ⟨hreturn, hend⟩ := hc
  rcases ends with rfl | rfl | rfl <;> simp [hreturn, hend]

/-- The lines as they are written, and the text that the parser reads for them. -/
inductive SameLines : List (List Char) → List Char → Prop
  | nil : SameLines [] []
  | line {b e : List Char} {ls : List (List Char)} {t : List Char} (inner : ∀ c ∈ b, IsInner c)
      (ends : IsLineEnd e) (last : e = [] → ls = []) (rest : SameLines ls t) :
      SameLines ((b ++ e) :: ls) (b ++ '\n' :: t)

theorem Text.IsLineEnd.not_inner {e : List Char} (ends : IsLineEnd e) {c : Char} (hc : c ∈ e) : ¬IsInner c :=
  fun hinner => ends.not_mem hinner hc

theorem Text.lineEnd_not_mem {p : Char → Bool} (hp : p '\n' = false) {cs : List Char} (h : ∀ c ∈ cs, p c = true) :
    '\n' ∉ cs := by
  intro hmem
  simp [h _ hmem] at hp

/-- A character of the first line is one more character of what the parser reads. -/
theorem SameLines.cons {c : Char} (hc : IsInner c) {l : List Char} {ls : List (List Char)} {t : List Char}
    (h : SameLines (l :: ls) t) : SameLines ((c :: l) :: ls) (c :: t) := by
  cases h with
  | line inner ends last rest =>
    exact .line (List.forall_mem_cons.2 ⟨hc, inner⟩) ends last rest

namespace SameLines

variable {c : Char} {l : List Char} {ls : List (List Char)} {t : List Char}

/-- The first line and what the parser reads for it. -/
theorem exists_line (h : SameLines (l :: ls) t) :
    ∃ b e t', l = b ++ e ∧ t = b ++ '\n' :: t' ∧ (∀ c ∈ b, IsInner c) ∧ IsLineEnd e ∧ (e = [] → ls = []) ∧
      SameLines ls t' := by
  generalize hlines : l :: ls = lines at h
  cases h with
  | nil => cases hlines
  | @line b e ls' t' inner ends last rest =>
    obtain ⟨rfl, rfl⟩ := List.cons.inj hlines
    exact ⟨b, e, t', rfl, rfl, inner, ends, last, rest⟩

/-- A line before others has its end. -/
theorem lineEnd_ne_nil {e : List Char} (last : e = [] → ls = []) (rest : SameLines ls t) (more : t ≠ []) :
    e ≠ [] := by
  intro hnil
  rw [last hnil] at rest
  cases rest
  exact more rfl

/-- What the parser reads next is the next character of the line, or the line is at its end. -/
theorem cases_cons (h : SameLines (l :: ls) (c :: t)) :
    (IsInner c ∧ ∃ l', l = c :: l' ∧ SameLines (l' :: ls) t) ∨
    (c = '\n' ∧ IsLineEnd l ∧ (l = [] → ls = []) ∧ SameLines ls t) := by
  obtain ⟨b, e, t', rfl, htext, inner, ends, last, rest⟩ := h.exists_line
  cases b with
  | nil =>
    obtain ⟨rfl, rfl⟩ := List.cons.inj htext
    exact .inr ⟨rfl, ends, last, rest⟩
  | cons d b =>
    obtain ⟨rfl, rfl⟩ := List.cons.inj htext
    obtain ⟨hd, inner⟩ := List.forall_mem_cons.1 inner
    exact .inl ⟨hd, b ++ e, rfl, .line inner ends last rest⟩

theorem of_cons (h : SameLines (l :: ls) (c :: t)) (hc : c ≠ '\n') :
    IsInner c ∧ ∃ l', l = c :: l' ∧ SameLines (l' :: ls) t := by
  rcases h.cases_cons with hinner | ⟨hend, -⟩
  · exact hinner
  · exact absurd hend hc

theorem cons_line (h : SameLines ((c :: l) :: ls) t) (hc : IsInner c) :
    ∃ t', t = c :: t' ∧ SameLines (l :: ls) t' := by
  obtain ⟨b, e, t', hl, rfl, inner, ends, last, rest⟩ := h.exists_line
  cases b with
  | nil =>
    rw [List.nil_append] at hl
    exact absurd (hl ▸ List.mem_cons_self ..) (ends.not_mem hc)
  | cons d b =>
    obtain ⟨rfl, rfl⟩ := List.cons.inj hl
    exact ⟨_, rfl, .line (List.forall_mem_cons.1 inner).2 ends last rest⟩

theorem of_append {b : List Char} (h : SameLines (l :: ls) (b ++ t)) (hb : '\n' ∉ b) :
    (∀ c ∈ b, IsInner c) ∧ ∃ l', l = b ++ l' ∧ SameLines (l' :: ls) t := by
  induction b generalizing l with
  | nil => exact ⟨by simp, l, rfl, h⟩
  | cons c b ih =>
    obtain ⟨hc, hb⟩ : c ≠ '\n' ∧ '\n' ∉ b := by simpa [eq_comm] using hb
    obtain ⟨hinner, l', rfl, h'⟩ := h.of_cons hc
    obtain ⟨inner, l'', rfl, h''⟩ := ih h' hb
    exact ⟨List.forall_mem_cons.2 ⟨hinner, inner⟩, l'', rfl, h''⟩

theorem drop {k : Nat} (h : SameLines (l :: ls) t) (hk : k ≤ t.length) (hend : '\n' ∉ t.take k) :
    SameLines (l.drop k :: ls) (t.drop k) := by
  rw [← List.take_append_drop k t] at h
  obtain ⟨-, l', rfl, h'⟩ := h.of_append hend
  have hlength : (t.take k).length = k := List.length_take_of_le hk
  have hdrop : (t.take k ++ l').drop k = l' := by rw [List.drop_left' hlength]
  rwa [hdrop]

theorem of_lineEnd (h : SameLines (l :: ls) ('\n' :: t)) :
    IsLineEnd l ∧ (l = [] → ls = []) ∧ SameLines ls t := by
  rcases h.cases_cons with ⟨hinner, -⟩ | ⟨-, hend⟩
  · exact absurd rfl hinner.2
  · exact hend

end SameLines

namespace Grammar

theorem normalizeLineEnds_cons {c : Char} (hc : c ≠ '\r') (cs : List Char) :
    normalizeLineEnds (c :: cs) = c :: normalizeLineEnds cs := by
  rw [normalizeLineEnds.eq_def]
  split <;> simp_all

theorem normalizeLineEnds_ne_nil {cs : List Char} (h : cs ≠ []) : normalizeLineEnds cs ≠ [] := by
  rw [normalizeLineEnds.eq_def]
  split <;> simp_all

theorem completeLines_cons {c : Char} (hc : c ≠ '\r') {cs : List Char} (h : cs ≠ []) :
    completeLines (c :: cs) = c :: completeLines cs := by
  have hne := normalizeLineEnds_ne_nil h
  simp only [completeLines, normalizeLineEnds_cons hc, List.getLast?_cons_of_ne_nil hne]
  split <;> rfl

theorem completeLines_return {cs : List Char} (h : cs ≠ []) :
    completeLines ('\r' :: '\n' :: cs) = '\n' :: completeLines cs :=
  completeLines_cons (c := '\n') (by decide) h

end Grammar

namespace Comment

theorem splitLines_cons {c : Char} (hc : c ≠ '\n') {cs l : List Char} {ls : List (List Char)}
    (h : splitLines cs = l :: ls) : splitLines (c :: cs) = (c :: l) :: ls := by
  rw [splitLines, h]
  exact hc

theorem splitLines_ne_nil {cs : List Char} (h : cs ≠ []) : splitLines cs ≠ [] := by
  rw [splitLines.eq_def]
  split
  · exact absurd rfl h
  · exact List.cons_ne_nil _ _
  · split <;> exact List.cons_ne_nil _ _

theorem flatten_splitLines (cs : List Char) : (splitLines cs).flatten = cs := by
  induction cs with
  | nil => rfl
  | cons c cs ih =>
    rw [splitLines.eq_def]
    split
    · next h => cases h
    · next h =>
      obtain ⟨rfl, rfl⟩ := List.cons.inj h
      simp [ih]
    · next h =>
      obtain ⟨rfl, rfl⟩ := List.cons.inj h
      split
      · next hnil =>
        rw [hnil] at ih
        simp [← ih]
      · next hcons =>
        rw [hcons] at ih
        simp [← ih]

/-- Without a lone `\r`, the lines as they are written are the lines that the parser reads. -/
theorem sameLines_of_returnsPaired {cs : List Char} (paired : returnsPaired cs = true) (hne : cs ≠ []) :
    SameLines (splitLines cs) (Grammar.completeLines cs) := by
  fun_induction returnsPaired cs with
  | case1 => exact absurd rfl hne
  | case2 cs ih =>
    have hlines : splitLines ('\r' :: '\n' :: cs) = ['\r', '\n'] :: splitLines cs :=
      splitLines_cons (by decide) rfl
    rw [hlines]
    by_cases hcs : cs = []
    · subst hcs
      exact .line (b := []) (by simp) (.inr (.inr rfl)) (by simp) .nil
    · rw [Grammar.completeLines_return hcs]
      exact .line (b := []) (by simp) (.inr (.inr rfl)) (by simp) (ih paired hcs)
  | case3 c cs hpair ih =>
    obtain ⟨hreturn, paired⟩ : c ≠ '\r' ∧ returnsPaired cs = true := by simpa using paired
    by_cases hc : c = '\n'
    · subst hc
      by_cases hcs : cs = []
      · subst hcs
        exact .line (b := []) (by simp) (.inr (.inl rfl)) (by simp) .nil
      · rw [Grammar.completeLines_cons hreturn hcs]
        exact .line (b := []) (by simp) (.inr (.inl rfl)) (by simp) (ih paired hcs)
    · by_cases hcs : cs = []
      · subst hcs
        have hcomplete : Grammar.completeLines [c] = c :: ['\n'] := by
          simp [Grammar.completeLines, Grammar.normalizeLineEnds_cons hreturn, Grammar.normalizeLineEnds, hc]
        have hlines : splitLines [c] = [[c]] := by
          rw [splitLines.eq_def]
          split <;> simp_all [splitLines]
        rw [hcomplete, hlines]
        exact .cons ⟨hreturn, hc⟩ (.line (b := []) (by simp) (.inl rfl) (by simp) .nil)
      · obtain ⟨l, ls, hlines⟩ := List.exists_cons_of_ne_nil (splitLines_ne_nil hcs)
        have hrest := ih paired hcs
        rw [Grammar.completeLines_cons hreturn hcs, splitLines_cons hc hlines]
        rw [hlines] at hrest
        exact hrest.cons ⟨hreturn, hc⟩

end Comment

/-! ## Counting lines -/

namespace Grammar

/-- The line that the parser has come to after this much of a text. -/
def lineAfter (before : List Char) : Nat :=
  ((⟨1, 0, 0⟩ : Mark).advance (normalizeLineEnds before)).line

theorem Mark.line_advance (m : Mark) (cs : List Char) :
    (m.advance cs).line = m.line + cs.count '\n' := by
  induction cs generalizing m with
  | nil => rfl
  | cons c cs ih =>
    have hstep : (m.step c).line = m.line + if c = '\n' then 1 else 0 := by
      unfold step
      split <;> rfl
    have hrest := ih (m.step c)
    rw [advance, List.foldl_cons, ← advance, hrest, hstep, List.count_cons]
    simp only [beq_iff_eq]
    omega

theorem count_normalizeLineEnds {cs : List Char} (paired : returnsPaired cs = true) :
    (normalizeLineEnds cs).count '\n' = cs.count '\n' := by
  fun_induction returnsPaired cs with
  | case1 => rfl
  | case2 cs ih => simp [normalizeLineEnds, ih paired]
  | case3 c cs _ ih =>
    obtain ⟨hc, paired⟩ : c ≠ '\r' ∧ returnsPaired cs = true := by simpa using paired
    rw [normalizeLineEnds_cons hc, List.count_cons, List.count_cons, ih paired]

end Grammar

theorem Text.returnsPaired_of_append {before rest : List Char} {c : Char} (hc : c ≠ '\n')
    (h : returnsPaired (before ++ c :: rest) = true) : returnsPaired before = true := by
  fun_induction returnsPaired before with
  | case1 => rfl
  | case2 cs ih => exact ih (by simpa [returnsPaired] using h)
  | case3 d cs hpair ih =>
    have hrest : d ≠ '\r' ∧ returnsPaired (cs ++ c :: rest) = true := by
      rw [List.cons_append, returnsPaired.eq_def] at h
      split at h
      · next heq => cases heq
      · next heq =>
        obtain ⟨rfl, htail⟩ := List.cons.inj heq
        -- the pair would begin with the last character before the place
        cases cs with
        | nil => exact absurd (List.cons.inj htail).1 hc
        | cons x xs => exact absurd (by rw [(List.cons.inj htail).1]) (hpair xs rfl)
      · next heq =>
        obtain ⟨rfl, rfl⟩ := List.cons.inj heq
        simpa using h
    simpa using ⟨hrest.1, ih hrest.2⟩

namespace SameLines

variable {ls : List (List Char)} {t : List Char}

/-- The lines before a line hold as many line ends as there are lines. -/
theorem count_take (h : SameLines ls t) {i : Nat} (hi : i < ls.length) :
    (ls.take i).flatten.count '\n' = i := by
  induction h generalizing i with
  | nil => simp at hi
  | @line b e ls t inner ends last rest ih =>
    cases i with
    | zero => rfl
    | succ i =>
      have hi' : i < ls.length := by simpa using hi
      have hb : b.count '\n' = 0 := List.count_eq_zero.2 fun hmem => (inner _ hmem).2 rfl
      have he : e.count '\n' = 1 := by
        rcases ends with rfl | rfl | rfl
        · simp [last rfl] at hi'
        · rfl
        · rfl
      simp only [List.take_succ_cons, List.flatten_cons, List.count_append, ih hi', hb, he]
      omega

/-- A line and its end, which only the last line may lack. -/
theorem exists_parts (h : SameLines ls t) {i : Nat} {l : List Char} (hi : ls[i]? = some l) :
    ∃ b e, l = b ++ e ∧ (∀ c ∈ b, IsInner c) ∧ IsLineEnd e ∧ (e = [] → ls.drop (i + 1) = []) := by
  induction h generalizing i with
  | nil => cases hi
  | @line b e ls t inner ends last rest ih =>
    cases i with
    | zero =>
      obtain rfl : b ++ e = l := Option.some.inj hi
      exact ⟨b, e, rfl, inner, ends, last⟩
    | succ i => exact ih hi

end SameLines

/-- A line has one cut into inner characters and its end. -/
theorem Text.IsLineEnd.eq_of_append {b e s after : List Char} (ends : IsLineEnd e) (inner : ∀ c ∈ b, IsInner c)
    (last : ∀ c ∈ s.getLast?, IsInner c) (stop : ∀ c ∈ after.head?, ¬IsInner c) (h : b ++ e = s ++ after) :
    s = b ∧ after = e := by
  rcases List.append_eq_append_iff.1 h with ⟨d, rfl, hd⟩ | ⟨d, rfl, rfl⟩
  · -- `s` would go on into the line end
    rcases List.eq_nil_or_concat d with rfl | ⟨d, x, rfl⟩
    · simp [hd]
    · exact absurd (last x (by simp)) (ends.not_inner (by simp [hd]))
  · cases d with
    | nil => simp
    | cons x d => exact absurd (inner x (by simp)) (stop x rfl)

theorem Comment.sameLines_of_line {cs l : List Char} {i : Nat} (paired : returnsPaired cs = true)
    (hi : (splitLines cs)[i]? = some l) : SameLines (splitLines cs) (Grammar.completeLines cs) := by
  refine sameLines_of_returnsPaired paired ?_
  rintro rfl
  simp [splitLines] at hi

/-- A text is cut at a line. -/
theorem Comment.eq_append_of_line {cs l : List Char} {i : Nat} (hi : (splitLines cs)[i]? = some l) :
    cs = ((splitLines cs).take i).flatten ++ l ++ ((splitLines cs).drop (i + 1)).flatten := by
  obtain ⟨hlt, hline⟩ := List.getElem?_eq_some_iff.1 hi
  conv_lhs => rw [← flatten_splitLines cs, ← List.take_append_drop i (splitLines cs),
    List.flatten_append, List.drop_eq_getElem_cons hlt, hline, List.flatten_cons]
  simp

/-- The parser counts a place in a line as the number of the line says. -/
theorem Grammar.lineAfter_of_lines {cs before rest : List Char} {c : Char} {i : Nat}
    (paired : returnsPaired cs = true) (hbefore : '\n' ∉ before) (hc : c ≠ '\n')
    (hi : (Comment.splitLines cs)[i]? = some (before ++ c :: rest)) :
    lineAfter (((Comment.splitLines cs).take i).flatten ++ before) = i + 1 := by
  obtain ⟨hlt, -⟩ := List.getElem?_eq_some_iff.1 hi
  have same := Comment.sameLines_of_line paired hi
  have htext : cs = (((Comment.splitLines cs).take i).flatten ++ before) ++
      c :: (rest ++ ((Comment.splitLines cs).drop (i + 1)).flatten) := by
    simpa using Comment.eq_append_of_line hi
  have hpaired : returnsPaired (((Comment.splitLines cs).take i).flatten ++ before) = true :=
    returnsPaired_of_append hc (htext ▸ paired)
  rw [lineAfter, Mark.line_advance, count_normalizeLineEnds hpaired, List.count_append,
    same.count_take hlt, List.count_eq_zero.2 hbefore]
  exact Nat.add_comm 1 i

end AwaitLint
