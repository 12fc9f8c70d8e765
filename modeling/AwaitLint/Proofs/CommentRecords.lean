import AwaitLint.Proofs.TextLines
import Mathlib.Data.List.DropRight
import Mathlib.Data.List.Nodup

/-! # What a scan records

The scan of a line records comments of that line under its number and changes no entry of another line.
So an entry of a whole scan is a comment of the line under whose number it is kept, and an entry stays
once its line has passed.
-/

namespace AwaitLint.Comment

open Text

/-- A comment of a line starts with its mark and goes on to the end of the line. -/
def IsCommentOf (text c : List Char) : Prop :=
  ∃ before rest after, text = before ++ c ++ after ∧ c = '#' :: rest ∧
    (∀ x ∈ c.getLast?, IsInner x) ∧ ∀ x ∈ after.head?, ¬IsInner x

/-- After `before` the text has a comment, from its mark to the end of the line. -/
def HasCommentAfter (text before c : List Char) : Prop :=
  ∃ after, text = before ++ c ++ after ∧ c.head? = some '#' ∧ (∀ x ∈ c, IsInner x) ∧
    ∀ x ∈ after.head?, ¬IsInner x

namespace Scan

theorem mem_record {s : Scan} {line : Int} {text : List Char} {e : Int × String} :
    e ∈ (s.record line text).byLine ↔
      e = (line, String.ofList text) ∨ e ∈ s.byLine ∧ e.1 ≠ line := by
  unfold record
  dsimp only
  split
  · next known =>
    simp only [List.mem_map]
    constructor
    · rintro ⟨d, hd, rfl⟩
      by_cases hl : d.1 = line
      · simp [hl]
      · simp [hl, hd]
    · rintro (rfl | ⟨he, hl⟩)
      · obtain ⟨d, hd, hl⟩ := List.any_eq_true.1 known
        exact ⟨d, hd, if_pos hl⟩
      · exact ⟨e, he, by simp [hl]⟩
  · next fresh =>
    have other : ∀ d ∈ s.byLine, d.1 ≠ line := fun d hd hl =>
      fresh (List.any_eq_true.2 ⟨d, hd, by simpa using hl⟩)
    rw [List.mem_append, List.mem_singleton]
    constructor
    · rintro (he | rfl)
      · exact .inr ⟨he, other e he⟩
      · exact .inl rfl
    · rintro (rfl | ⟨he, -⟩)
      · exact .inr rfl
      · exact .inl he

theorem nodup_record {s : Scan} (h : (s.byLine.map Prod.fst).Nodup) (line : Int) (text : List Char) :
    ((s.record line text).byLine.map Prod.fst).Nodup := by
  unfold record
  dsimp only
  split
  · have same : (Prod.fst ∘ fun e : Int × String =>
        if (e.1 == line) = true then (line, String.ofList text) else e) = Prod.fst := by
      funext e
      simp only [Function.comp]
      split <;> simp_all
    rwa [List.map_map, same]
  · next fresh =>
    rw [List.map_append, List.nodup_append]
    refine ⟨h, by simp, ?_⟩
    intro l hl m hm
    obtain ⟨e, he, rfl⟩ := List.mem_map.1 hl
    have hml : m = line := by simpa using hm
    subst hml
    intro heq
    exact fresh (List.any_eq_true.2 ⟨e, he, by simpa using heq⟩)

/-- From `s` to `s'` only comments of the text are recorded, under the line. -/
inductive Notes (line : Nat) (text : List Char) : Scan → Scan → Prop
  | none {s s' : Scan} (same : s'.byLine = s.byLine) : Notes line text s s'
  | more {s s' s'' : Scan} {c : List Char} (comment : IsCommentOf text c)
      (recorded : s'.byLine = (s.record line c).byLine) (later : Notes line text s' s'') :
      Notes line text s s''

namespace Notes

variable {line : Nat} {text : List Char} {s s' s'' : Scan}

/-- What else changes in the state does not matter. -/
theorem of_same (same : s'.byLine = s.byLine) (h : Notes line text s' s'') : Notes line text s s'' := by
  cases h with
  | none hsame => exact .none (hsame.trans same)
  | more comment recorded later =>
    refine .more comment (recorded.trans ?_) later
    simp only [record, same]

theorem ite {p : Prop} [Decidable p] {a b : Scan} (ha : p → Notes line text s a) (hb : ¬p → Notes line text s b) :
    Notes line text s (if p then a else b) := by
  split
  · next hp => exact ha hp
  · next hp => exact hb hp

theorem mem_of_mem (h : Notes line text s s') {e : Int × String} (he : e ∈ s.byLine) (hl : e.1 ≠ line) :
    e ∈ s'.byLine := by
  induction h with
  | none same => exact same ▸ he
  | more comment recorded later ih => exact ih (recorded ▸ mem_record.2 (.inr ⟨he, hl⟩))

theorem mem_or_comment (h : Notes line text s s') {e : Int × String} (he : e ∈ s'.byLine) :
    e ∈ s.byLine ∨ e.1 = line ∧ IsCommentOf text e.2.toList := by
  induction h with
  | none same => exact .inl (same ▸ he)
  | more comment recorded later ih =>
    rcases ih he with he | he
    · rcases mem_record.1 (recorded ▸ he) with rfl | ⟨he, -⟩
      · exact .inr ⟨rfl, by simpa using comment⟩
      · exact .inl he
    · exact .inr he

theorem nodup (h : Notes line text s s') (hs : (s.byLine.map Prod.fst).Nodup) :
    (s'.byLine.map Prod.fst).Nodup := by
  induction h with
  | none same => rwa [same]
  | more comment recorded later ih => exact ih (recorded ▸ nodup_record hs _ _)

end Notes

end Scan

open Scan

/-! ## One line -/

theorem isCommentOf_of_suffix {text c cs : List Char} {x : Char} (hsuffix : x :: cs <:+ text)
    (hx : x = '#') (hc : c = (x :: cs).takeWhile fun d => d != '\r' && d != '\n') : IsCommentOf text c := by
  obtain ⟨before, rfl⟩ := hsuffix
  subst hx hc
  refine ⟨before, cs.takeWhile fun d => d != '\r' && d != '\n',
    ('#' :: cs).dropWhile fun d => d != '\r' && d != '\n', ?_, rfl, ?_, ?_⟩
  · rw [List.append_assoc, List.takeWhile_append_dropWhile]
  · intro x hx
    simpa [IsInner] using List.mem_takeWhile_imp (List.mem_of_mem_getLast? hx)
  · intro x hx
    have hstop := List.head?_dropWhile_not (fun d => d != '\r' && d != '\n') ('#' :: cs)
    rw [Option.mem_def.1 hx] at hstop
    simpa [IsInner] using hstop

variable {line : Nat} {text : List Char}

theorem scanCode_notes (fuel column : Nat) (word cs : List Char) (s : Scan) (h : cs <:+ text) :
    Notes line text s (scanCode line fuel column word cs s) := by
  induction fuel generalizing column word cs s with
  | zero =>
    rw [scanCode]
    exact .none rfl
  | succ fuel ih =>
    cases cs with
    | nil =>
      rw [scanCode]
      · exact .none rfl
      · simp
    | cons c cs =>
      -- the state may change in all but its comments before the scan goes on
      have go (n : Nat) {s s' : Scan} (same : s'.byLine = s.byLine) :
          Notes line text s (scanCode line fuel (column + n) [] ((c :: cs).drop n) s') :=
        .of_same same (ih _ _ _ _ ((List.drop_suffix n (c :: cs)).trans h))
      have short (start : Nat) (s : Scan) : Notes line text s
          (scanCode.short line start c cs s.code fun n s =>
            scanCode line fuel (column + n) [] ((c :: cs).drop n) s) := by
        unfold scanCode.short
        split
        · exact go _ rfl
        · exact .none rfl
        · exact go _ rfl
      rw [scanCode]
      refine .ite (fun _ => go 1 rfl) fun _ => ?_
      refine .ite (fun _ => go 2 rfl) fun _ => ?_
      refine .ite (fun _ => .none rfl) fun _ => ?_
      refine .ite (fun hc => .more (isCommentOf_of_suffix h hc rfl) rfl (go _ rfl)) fun _ => ?_
      refine .ite (fun _ => ?_) fun _ => ?_
      · dsimp only
        split
        · refine .ite (fun _ => ?_) fun _ => short _ s
          split
          · exact go _ rfl
          · exact .none rfl
        · exact short _ s
      refine .ite (fun _ => go 1 rfl) fun _ => ?_
      refine .ite (fun _ => go 1 rfl) fun _ => ?_
      exact .of_same (show s.code.byLine = s.byLine from rfl) (ih _ _ _ _ ((List.suffix_cons c cs).trans h))

theorem isCommentOf_wholeComment {cs : List Char} (h : '#' :: cs <:+ text) :
    IsCommentOf text (wholeComment ('#' :: cs)) := by
  obtain ⟨before, rfl⟩ := h
  let isEnd : Char → Bool := fun c => c == '\r' || c == '\n'
  have hwhole : wholeComment ('#' :: cs) = ('#' :: cs).rdropWhile isEnd := rfl
  have hne : ('#' :: cs).rdropWhile isEnd ≠ [] := fun hnil =>
    absurd (List.rdropWhile_eq_nil_iff.1 hnil '#' (List.mem_cons_self ..)) (by decide)
  obtain ⟨rest, hrest⟩ : ∃ rest, ('#' :: cs).rdropWhile isEnd = '#' :: rest := by
    obtain ⟨x, rest, hx⟩ := List.exists_cons_of_ne_nil hne
    have hhead := hx ▸ List.rdropWhile_prefix isEnd (l := '#' :: cs)
    exact ⟨rest, by rw [hx, (List.cons_prefix_cons.1 hhead).1]⟩
  refine ⟨before, rest, ('#' :: cs).rtakeWhile isEnd, ?_, hwhole.trans hrest, ?_, ?_⟩
  · rw [hwhole, List.append_assoc, List.rdropWhile_append_rtakeWhile]
  · intro x hx
    have hlast := List.rdropWhile_last_not isEnd ('#' :: cs) hne
    rw [hwhole, List.getLast?_eq_some_getLast hne, Option.mem_some_iff] at hx
    simpa [hx, isEnd, IsInner] using hlast
  · intro x hx
    have hend := List.mem_rtakeWhile_imp (List.mem_of_mem_head? hx)
    simpa [isEnd, IsInner, Classical.or_iff_not_imp_left] using hend

theorem scanLine_notes {s s' : Scan} (h : scanLine line text s = .ok s') : Notes line text s s' := by
  have go (n column : Nat) {s s' : Scan} (same : s'.byLine = s.byLine) :
      Notes line text s (scanCode line (text.length + 1) column [] (text.drop n) s') :=
    .of_same same (scanCode_notes _ _ _ _ _ (List.drop_suffix n text))
  unfold scanLine at h
  dsimp only at h
  split at h
  · split at h
    · cases h
      exact go _ _ rfl
    · split at h <;> cases h <;> exact .none rfl
  · split at h
    · split at h
      · cases h
        exact .none rfl
      · next c cs hrest =>
        have goOn {s s' : Scan} (same : s'.byLine = s.byLine) :=
          hrest ▸ go (indentation 0 0 text).2 (indentation 0 0 text).2 same
        split at h
        · next hc =>
          cases h
          subst hc
          exact .more (isCommentOf_wholeComment (hrest ▸ List.drop_suffix _ text)) rfl (.none rfl)
        split at h
        · cases h
          exact .none rfl
        split at h
        · cases h
          exact goOn rfl
        split at h
        · split at h
          · cases h
            exact goOn rfl
          · cases h
        · cases h
          exact goOn rfl
    · cases h
      exact go 0 _ rfl

/-! ## All lines -/

theorem byLine_scanLines_nil (line : Nat) (s : Scan) : (scanLines line [] s).byLine = s.byLine := by
  rw [scanLines]
  split
  · rfl
  · split <;> rfl

/-- Once its line has passed, an entry stays. -/
theorem mem_scanLines_of_mem {e : Int × String} {ls : List (List Char)} {s : Scan}
    (he : e ∈ s.byLine) (hline : e.1 < line) : e ∈ (scanLines line ls s).byLine := by
  induction ls generalizing line s with
  | nil => exact byLine_scanLines_nil line s ▸ he
  | cons l ls ih =>
    rw [scanLines]
    split
    · next s' hs =>
      have he' : e ∈ s'.byLine := (scanLine_notes hs).mem_of_mem he (by omega)
      exact ih he' (by omega)
    · exact he

/-- A new entry is a comment of the line under whose number it is kept. -/
theorem mem_or_comment_of_scanLines {e : Int × String} {ls : List (List Char)} {s : Scan}
    (he : e ∈ (scanLines line ls s).byLine) :
    e ∈ s.byLine ∨ ∃ i l, ls[i]? = some l ∧ e.1 = (line + i : Nat) ∧ IsCommentOf l e.2.toList := by
  induction ls generalizing line s with
  | nil => exact .inl (byLine_scanLines_nil line s ▸ he)
  | cons l ls ih =>
    rw [scanLines] at he
    split at he
    · next s' hs =>
      rcases ih he with he | ⟨i, l', hi, hnumber, hcomment⟩
      · rcases (scanLine_notes hs).mem_or_comment he with he | ⟨hnumber, hcomment⟩
        · exact .inl he
        · exact .inr ⟨0, l, rfl, hnumber, hcomment⟩
      · exact .inr ⟨i + 1, l', hi, by omega, hcomment⟩
    · exact .inl he

/-- No line has two entries. -/
theorem nodup_scanLines {ls : List (List Char)} {s : Scan} (h : (s.byLine.map Prod.fst).Nodup) :
    ((scanLines line ls s).byLine.map Prod.fst).Nodup := by
  induction ls generalizing line s with
  | nil => exact byLine_scanLines_nil line s ▸ h
  | cons l ls ih =>
    rw [scanLines]
    split
    · next s' hs => exact ih ((scanLine_notes hs).nodup h)
    · exact h

theorem at?_of_mem {cs : List Char} {e : Int × String} (he : e ∈ (scan cs).byLine) :
    (scan cs).at? e.1 = some e.2 := by
  have distinct : ((scan cs).byLine.map Prod.fst).Nodup := nodup_scanLines List.nodup_nil
  obtain ⟨d, hd⟩ := Option.isSome_iff_exists.1 <|
    List.find?_isSome (p := fun d => d.1 == e.1).2 ⟨e, he, beq_self_eq_true e.1⟩
  have hline : d.1 = e.1 := by simpa using List.find?_some hd
  have heq : d = e := List.inj_on_of_nodup_map distinct (List.mem_of_find?_eq_some hd) he hline
  rw [Comments.at?, hd, heq]
  rfl

/-- A comment of a line stands in the text where the line does, and only inner characters are before it. -/
theorem hasCommentAfter_of_line {cs l c : List Char} {i : Nat} (paired : returnsPaired cs = true)
    (hi : (splitLines cs)[i]? = some l) (h : IsCommentOf l c) :
    ∃ before rest, l = before ++ '#' :: rest ∧ '\n' ∉ before ∧
      HasCommentAfter cs (((splitLines cs).take i).flatten ++ before) c := by
  obtain ⟨before, rest, after, rfl, hmark, last, stop⟩ := h
  obtain ⟨b, e, hparts, inner, ends, final⟩ := (sameLines_of_line paired hi).exists_parts hi
  have last' : ∀ x ∈ (before ++ c).getLast?, IsInner x := by
    rwa [List.getLast?_append_of_ne_nil before (by simp [hmark])]
  obtain ⟨rfl, rfl⟩ := ends.eq_of_append inner last' stop hparts.symm
  refine ⟨before, rest ++ after, by simp [hmark], fun hmem => ?_, ?_⟩
  · exact (inner _ (List.mem_append_left c hmem)).2 rfl
  · refine ⟨after ++ ((splitLines cs).drop (i + 1)).flatten, ?_, by simp [hmark], fun x hx => ?_, fun x hx => ?_⟩
    · simpa using eq_append_of_line hi
    · exact inner x (List.mem_append_right before hx)
    · cases after with
      | nil => simp [final rfl] at hx
      | cons d ds => exact stop x (by simpa using hx)

/-- Without a lone `\r`, an entry is kept under the line that the parser gives to its place. -/
theorem line_of_mem_scan {cs : List Char} (paired : returnsPaired cs = true) {e : Int × String}
    (he : e ∈ (scan cs).byLine) :
    ∃ before, HasCommentAfter cs before e.2.toList ∧ e.1 = Grammar.lineAfter before := by
  rcases mem_or_comment_of_scanLines he with he | ⟨i, l, hi, hnumber, comment⟩
  · cases he
  · obtain ⟨before, rest, rfl, hbefore, place⟩ := hasCommentAfter_of_line paired hi comment
    refine ⟨_, place, ?_⟩
    rw [Grammar.lineAfter_of_lines paired hbefore (by decide) hi, hnumber, Nat.add_comm]

end AwaitLint.Comment
