import AwaitLint.Comment.Marker
import AwaitLint.Proofs.Findings
import AwaitLint.Proofs.WordCharacters

/-! # Markers that list codes

A marker with a list of codes silences the kinds that it lists and no other, however it is spaced and cased and
whatever stands around it.
-/

namespace AwaitLint.Comment

open Text (isBlank isWord)

section Runs

variable {p : Char → Bool} {xs ys : List Char}

theorem takeWhile_append_stop (hx : ∀ c ∈ xs, p c = true) (hy : ∀ c ∈ ys.head?, p c = false) :
    (xs ++ ys).takeWhile p = xs := by
  rw [List.takeWhile_append_of_pos hx]
  cases ys with
  | nil => simp
  | cons y ys => simp [hy y rfl]

theorem dropWhile_append_stop (hx : ∀ c ∈ xs, p c = true) (hy : ∀ c ∈ ys.head?, p c = false) :
    (xs ++ ys).dropWhile p = ys := by
  rw [List.dropWhile_append_of_pos hx]
  cases ys with
  | nil => rfl
  | cons y ys => simp [hy y rfl]

end Runs

/-- White space between two parts of a marker, none or more. -/
structure Gap where
  chars : List Char
  blank : ∀ c ∈ chars, isBlank c = true

/-- A name of word characters and hyphens. -/
structure Code where
  chars : List Char
  nonempty : chars ≠ []
  spelled : ∀ c ∈ chars, isCodeChar c = true

/-- The code in small letters. -/
def Code.name (c : Code) : String := Text.lower (String.ofList c.chars)

/-- A code after the first one, with the comma in front of it. -/
structure NextCode extends Code where
  before : Gap
  after : Gap

def NextCode.text (c : NextCode) : List Char := c.before.chars ++ ',' :: (c.after.chars ++ c.chars)

/-- A marker that lists its codes. -/
structure ListMarker where
  lead : Gap
  word : List Char
  cased : word.map Char.toLower = "noqa".toList
  gap : Gap
  first : Code
  more : List NextCode

namespace ListMarker

def codes (m : ListMarker) : List Code := m.first :: m.more.map (·.toCode)

/-- What follows the word. -/
def listText (m : ListMarker) : List Char :=
  ':' :: (m.gap.chars ++ (m.first.chars ++ m.more.flatMap NextCode.text))

def text (m : ListMarker) : List Char := '#' :: (m.lead.chars ++ (m.word ++ m.listText))

end ListMarker

/-- No code and no comma with a code after it stands at the start of the text. -/
structure EndsList (rest : List Char) : Prop where
  head : ∀ c ∈ rest.head?, isCodeChar c = false
  comma : ∀ (before after : Gap) (c : Char) (tail : List Char),
    rest = before.chars ++ ',' :: (after.chars ++ c :: tail) → isCodeChar c = false

theorem isBlank_eq_false_of_isCodeChar {c : Char} (h : isCodeChar c = true) : isBlank c = false := by
  simp only [isCodeChar, Bool.or_eq_true, beq_iff_eq] at h
  rcases h with h | rfl
  · exact Text.isBlank_eq_false_of_isWord h
  · decide

theorem isCodeChar_eq_false_of_isBlank {c : Char} (h : isBlank c = true) : isCodeChar c = false := by
  rw [← Bool.not_eq_true]
  intro hc
  rw [isBlank_eq_false_of_isCodeChar hc] at h
  cases h

theorem Gap.skipBlanks_append (g : Gap) {cs : List Char} (h : ∀ c ∈ cs.head?, isBlank c = false) :
    skipBlanks (g.chars ++ cs) = cs :=
  dropWhile_append_stop g.blank h

theorem Gap.head?_append (g : Gap) {cs : List Char} (h : ∀ c ∈ cs.head?, isCodeChar c = false) :
    ∀ c ∈ (g.chars ++ cs).head?, isCodeChar c = false := by
  intro c hc
  cases hg : g.chars with
  | nil => exact h c (by simpa [hg] using hc)
  | cons b bs =>
    obtain rfl : b = c := by simpa [hg] using hc
    exact isCodeChar_eq_false_of_isBlank (g.blank b (by simp [hg]))

theorem Code.head?_append (c : Code) (cs : List Char) : ∀ x ∈ (c.chars ++ cs).head?, isBlank x = false := by
  intro x hx
  cases hc : c.chars with
  | nil => exact absurd hc c.nonempty
  | cons y ys =>
    obtain rfl : y = x := by simpa [hc] using hx
    exact isBlank_eq_false_of_isCodeChar (c.spelled y (by simp [hc]))

/-- The text from a blank run on: its blanks, and what follows them. -/
theorem exists_gap (cs : List Char) : ∃ g : Gap, cs = g.chars ++ skipBlanks cs :=
  ⟨⟨cs.takeWhile isBlank, List.all_eq_true.1 List.all_takeWhile⟩, List.takeWhile_append_dropWhile.symm⟩

theorem moreCodes_comma (fuel : Nat) (before : Gap) (rest : List Char) :
    moreCodes (fuel + 1) (before.chars ++ ',' :: rest) =
      if ((skipBlanks rest).takeWhile isCodeChar).isEmpty then []
      else (skipBlanks rest).takeWhile isCodeChar :: moreCodes fuel ((skipBlanks rest).dropWhile isCodeChar) := by
  have skip : skipBlanks (before.chars ++ ',' :: rest) = ',' :: rest :=
    before.skipBlanks_append (by simp; decide)
  simp only [moreCodes, skip]

theorem moreCodes_of_endsList {rest : List Char} (h : EndsList rest) (fuel : Nat) : moreCodes fuel rest = [] := by
  cases fuel with
  | zero => rfl
  | succ fuel =>
    obtain ⟨before, hbefore⟩ := exists_gap rest
    cases hskip : skipBlanks rest with
    | nil => simp [moreCodes, hskip]
    | cons c tail =>
      by_cases hc : c = ','
      · subst hc
        obtain ⟨after, hafter⟩ := exists_gap tail
        rw [hskip] at hbefore
        rw [hbefore, moreCodes_comma]
        cases hnext : skipBlanks tail with
        | nil => rfl
        | cons x xs =>
          have hx := h.comma before after x xs (by rw [← hnext, ← hafter, ← hbefore])
          simp [hx]
      · simp [moreCodes, hskip, hc]

theorem endsList_iff {rest : List Char} :
    EndsList rest ↔ rest.head?.any isCodeChar = false ∧ moreCodes 1 rest = [] := by
  rw [Option.any_eq_false]
  refine ⟨fun h => ⟨fun c hc => by simp [h.head c hc], moreCodes_of_endsList h 1⟩,
    fun h => ⟨fun c hc => by simpa using h.1 c hc, ?_⟩⟩
  rintro before after c tail rfl
  rw [← Bool.not_eq_true]
  intro hc
  have skip : skipBlanks (after.chars ++ c :: tail) = c :: tail :=
    after.skipBlanks_append (by simpa using isBlank_eq_false_of_isCodeChar hc)
  have none_more := h.2
  rw [moreCodes_comma, skip] at none_more
  simp [hc] at none_more

instance (rest : List Char) : Decidable (EndsList rest) := decidable_of_iff _ endsList_iff.symm

theorem head?_of_endsList {rest : List Char} (h : EndsList rest) (more : List NextCode) :
    ∀ c ∈ (more.flatMap NextCode.text ++ rest).head?, isCodeChar c = false := by
  cases more with
  | nil => exact h.head
  | cons next more =>
    rw [List.flatMap_cons, NextCode.text, List.append_assoc, List.append_assoc]
    refine next.before.head?_append ?_
    simp
    decide

theorem moreCodes_flatMap {rest : List Char} (h : EndsList rest) (more : List NextCode) {fuel : Nat}
    (enough : more.length ≤ fuel) :
    moreCodes fuel (more.flatMap NextCode.text ++ rest) = more.map (·.chars) := by
  induction more generalizing fuel with
  | nil => exact moreCodes_of_endsList h fuel
  | cons next more ih =>
    obtain ⟨fuel, rfl⟩ : ∃ k, fuel = k + 1 := ⟨fuel - 1, by simp at enough; omega⟩
    have stop := head?_of_endsList h more
    have skip : skipBlanks (next.after.chars ++ (next.chars ++ (more.flatMap NextCode.text ++ rest))) =
        next.chars ++ (more.flatMap NextCode.text ++ rest) :=
      next.after.skipBlanks_append (next.toCode.head?_append _)
    have split : (next :: more).flatMap NextCode.text ++ rest =
        next.before.chars ++ ',' :: (next.after.chars ++ (next.chars ++ (more.flatMap NextCode.text ++ rest))) := by
      simp [NextCode.text]
    rw [split, moreCodes_comma, skip, takeWhile_append_stop next.spelled stop,
      dropWhile_append_stop next.spelled stop, ih (by simpa using enough)]
    simp [next.nonempty]

theorem length_le_flatMap (more : List NextCode) : more.length ≤ (more.flatMap NextCode.text).length := by
  induction more with
  | nil => exact Nat.zero_le _
  | cons next more ih =>
    simp only [List.flatMap_cons, List.length_append, List.length_cons, NextCode.text]
    omega

theorem listedCodes_listText (m : ListMarker) {rest : List Char} (h : EndsList rest) :
    listedCodes (m.listText ++ rest) = m.codes.map (·.chars) := by
  have stop := head?_of_endsList h m.more
  have skip : skipBlanks (m.gap.chars ++ (m.first.chars ++ (m.more.flatMap NextCode.text ++ rest))) =
      m.first.chars ++ (m.more.flatMap NextCode.text ++ rest) :=
    m.gap.skipBlanks_append (m.first.head?_append _)
  have enough : m.more.length ≤ (m.first.chars ++ (m.more.flatMap NextCode.text ++ rest)).length := by
    have := length_le_flatMap m.more
    simp only [List.length_append]
    omega
  have split : m.listText ++ rest =
      ':' :: (m.gap.chars ++ (m.first.chars ++ (m.more.flatMap NextCode.text ++ rest))) := by
    simp [ListMarker.listText]
  rw [split]
  simp only [listedCodes, skip, takeWhile_append_stop m.first.spelled stop,
    dropWhile_append_stop m.first.spelled stop, moreCodes_flatMap h m.more enough]
  simp [m.first.nonempty, ListMarker.codes]

theorem toNat_of_isLower_toLower {c : Char} (h : c.toLower.isLower = true) : 65 ≤ c.toNat ∧ c.toNat ≤ 122 := by
  by_cases hc : c.val ≥ 'A'.val ∧ c.val ≤ 'Z'.val
  · simp only [ge_iff_le, UInt32.le_iff_toNat_le] at hc
    exact ⟨hc.1, hc.2.trans (by decide)⟩
  · rw [show c.toLower = c from dif_neg hc] at h
    have range : (decide ('a'.val ≤ c.val) && decide (c.val ≤ 'z'.val)) = true := h
    simp only [UInt32.le_iff_toNat_le, Bool.and_eq_true, decide_eq_true_eq] at range
    exact ⟨(show 65 ≤ 'a'.val.toNat by decide).trans range.1, range.2⟩

theorem isLetter_toLower {c : Char} (h : c.toLower.isLower = true) : isLetter c.toLower c = true := by
  have := toNat_of_isLower_toLower h
  simp [isLetter, Text.lowerChar, show c.toNat < 128 by omega]

theorem isBlank_eq_false_of_toLower {c : Char} (h : c.toLower.isLower = true) : isBlank c = false := by
  have := toNat_of_isLower_toLower h
  rw [← Bool.not_eq_true]
  intro hblank
  have far : ∀ n ∈ Text.farBlanks, 128 ≤ n := by decide
  rcases Text.near_or_far_of_isBlank hblank with near | hfar
  · omega
  · have := far _ hfar
    omega

theorem afterWord?_append (word rest : List Char) (h : ∀ c ∈ word, c.toLower.isLower = true) :
    afterWord? (word.map Char.toLower) (word ++ rest) = some rest := by
  induction word with
  | nil => rfl
  | cons c word ih =>
    rw [List.forall_mem_cons] at h
    simp only [List.map_cons, List.cons_append, afterWord?, isLetter_toLower h.1, if_true]
    exact ih h.2

namespace ListMarker

theorem isLower_of_mem_word (m : ListMarker) : ∀ c ∈ m.word, c.toLower.isLower = true := by
  intro c hc
  have letters : ∀ p ∈ "noqa".toList, p.isLower = true := List.all_eq_true.1 (by decide)
  exact letters _ (m.cased ▸ List.mem_map_of_mem hc)

theorem head?_word (m : ListMarker) (cs : List Char) : ∀ c ∈ (m.word ++ cs).head?, isBlank c = false := by
  intro c hc
  cases hw : m.word with
  | nil => exact absurd m.cased (by rw [hw]; decide)
  | cons x xs =>
    obtain rfl : x = c := by simpa [hw] using hc
    exact isBlank_eq_false_of_toLower (m.isLower_of_mem_word x (by simp [hw]))

end ListMarker

theorem afterMarker?_text (m : ListMarker) (rest : List Char) :
    afterMarker? (m.text ++ rest) = some (m.listText ++ rest) := by
  have skip : skipBlanks (m.lead.chars ++ (m.word ++ (m.listText ++ rest))) = m.word ++ (m.listText ++ rest) :=
    m.lead.skipBlanks_append (m.head?_word _)
  have word : afterWord? "noqa".toList (m.word ++ (m.listText ++ rest)) = some (m.listText ++ rest) := by
    rw [← m.cased]
    exact afterWord?_append _ _ m.isLower_of_mem_word
  have stop : (m.listText ++ rest).head?.any isWord = false := by
    simp [ListMarker.listText]
    decide
  have split : m.text ++ rest = '#' :: (m.lead.chars ++ (m.word ++ (m.listText ++ rest))) := by
    simp [ListMarker.text]
  rw [split]
  simp only [afterMarker?, skip, word, stop]
  rfl

section Before

variable (cs : List Char)

theorem skipBlanks_append_hash (q : List Char) : skipBlanks (q ++ '#' :: cs) = skipBlanks q ++ '#' :: cs := by
  induction q with
  | nil => simp [skipBlanks, show isBlank '#' = false by decide]
  | cons c q ih =>
    simp only [skipBlanks, List.cons_append, List.dropWhile_cons] at ih ⊢
    split
    · exact ih
    · rfl

theorem afterWord?_append_hash {ps : List Char} (h : ∀ p ∈ ps, isLetter p '#' = false) (q : List Char) :
    afterWord? ps (q ++ '#' :: cs) = (afterWord? ps q).map (· ++ '#' :: cs) := by
  induction ps generalizing q with
  | nil => rfl
  | cons p ps ih =>
    simp only [List.forall_mem_cons] at h
    cases q with
    | nil => simp [afterWord?, h.1]
    | cons c q =>
      simp only [List.cons_append, afterWord?]
      split
      · exact ih h.2 q
      · rfl

theorem afterMarker?_append_hash {q : List Char} (h : q ≠ []) :
    afterMarker? (q ++ '#' :: cs) = (afterMarker? q).map (· ++ '#' :: cs) := by
  cases q with
  | nil => exact absurd rfl h
  | cons c q =>
    by_cases hc : c = '#'
    · subst hc
      have letters : ∀ p ∈ "noqa".toList, isLetter p '#' = false := by simp; decide
      have word := afterWord?_append_hash cs letters (skipBlanks q)
      simp only [List.cons_append, afterMarker?, skipBlanks_append_hash, word]
      cases afterWord? "noqa".toList (skipBlanks q) with
      | none => rfl
      | some rest =>
        have : (rest ++ '#' :: cs).head?.any isWord = rest.head?.any isWord := by
          cases rest with
          | nil => simp; decide
          | cons x xs => rfl
        simp only [Option.map_some, this]
        split <;> rfl
    · simp [afterMarker?, hc]

/-- A number sign ends every marker before it. -/
theorem markerCodes_append_hash {q : List Char} (h : markerCodes q = none) :
    markerCodes (q ++ '#' :: cs) = markerCodes ('#' :: cs) := by
  induction q with
  | nil => rfl
  | cons c q ih =>
    simp only [markerCodes] at h
    cases hc : afterMarker? (c :: q) with
    | some rest => simp [hc] at h
    | none =>
      have hq : markerCodes q = none := by simpa [hc] using h
      have := afterMarker?_append_hash cs (q := c :: q) (by simp)
      simp only [List.cons_append] at this ⊢
      rw [markerCodes, this, hc]
      exact ih hq

end Before

/-- A comment in which a list of codes is the first marker silences the listed kinds and no other. -/
theorem noqaCodes_listMarker (m : ListMarker) {before rest : List Char}
    (clear : noqaCodes (String.ofList before) = none) (ends : EndsList rest) :
    noqaCodes (String.ofList (before ++ m.text ++ rest)) = some (m.codes.map Code.name) ∧
    ∀ (comments : Comments) (d : Diagnostic),
      comments.at? d.line = some (String.ofList (before ++ m.text ++ rest)) →
      (isSuppressed comments d = true ↔ ∃ c ∈ m.codes, c.name = d.kind.text) := by
  have listed : noqaCodes (String.ofList (before ++ m.text ++ rest)) = some (m.codes.map Code.name) := by
    have none_before : markerCodes before = none := by simpa [noqaCodes] using clear
    have found : markerCodes (m.text ++ rest) = some (listedCodes (m.listText ++ rest)) := by
      have := afterMarker?_text m rest
      simp only [ListMarker.text, List.cons_append] at this ⊢
      rw [markerCodes, this]
    have skipped : markerCodes (before ++ (m.text ++ rest)) = markerCodes (m.text ++ rest) :=
      markerCodes_append_hash _ none_before
    simp [noqaCodes, List.append_assoc, skipped, found, listedCodes_listText m ends, Function.comp_def, Code.name]
  refine ⟨listed, fun comments d hline => ?_⟩
  have some_code : m.codes.map Code.name ≠ [] := by simp [ListMarker.codes]
  simp only [isSuppressed_iff, Silenced, hline, Option.mem_some_iff, exists_eq_left', listed, some_code, false_or,
    List.mem_map]

/-- Mixed case, a space that does not break and a wide one, and two codes. -/
def sampleMarker : ListMarker where
  lead := ⟨[Char.ofNat 0xA0], List.all_eq_true.1 (by decide)⟩
  word := "NoQA".toList
  cased := by decide
  gap := ⟨" \t".toList, List.all_eq_true.1 (by decide)⟩
  first := ⟨"Waterfall-Chain".toList, by decide, List.all_eq_true.1 (by decide +kernel)⟩
  more := [⟨⟨"E501".toList, by decide, List.all_eq_true.1 (by decide +kernel)⟩,
    ⟨[Char.ofNat 0x2003], List.all_eq_true.1 (by decide)⟩, ⟨[], nofun⟩⟩]

theorem noqaCodes_listMarker_sampleMarker :
    let text := String.ofList ("# see #12 ".toList ++ sampleMarker.text ++ " , # later".toList)
    let comments : Comments := { byLine := [(3, text)] }
    noqaCodes "# see #12 " = none ∧ EndsList " , # later".toList ∧ comments.at? 3 = some text ∧
      noqaCodes text = some ["waterfall-chain", "e501"] ∧
      isSuppressed comments ⟨.waterfallChain, 3, 4, 3, 17⟩ = true ∧
      isSuppressed comments ⟨.preferParallelCombinator, 3, 4, 3, 17⟩ = false := by
  intro text comments
  have clear : noqaCodes (String.ofList "# see #12 ".toList) = none := by decide +kernel
  have ends : EndsList " , # later".toList := by decide +kernel
  have names : sampleMarker.codes.map Code.name = ["waterfall-chain", "e501"] := by decide +kernel
  obtain ⟨listed, silenced⟩ := noqaCodes_listMarker sampleMarker clear ends
  rw [names] at listed
  refine ⟨by simpa using clear, ends, rfl, listed, ?_, ?_⟩
  · rw [silenced comments _ rfl]
    exact ⟨sampleMarker.first, by simp [ListMarker.codes], by decide +kernel⟩
  · rw [← Bool.not_eq_true, silenced comments _ rfl]
    decide +kernel

end AwaitLint.Comment
