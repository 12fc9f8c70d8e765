import AwaitLint.Eligibility
import AwaitLint.Proofs.CommaLists
import AwaitLint.Proofs.ListedCodes

/-! # What a header directs

A directive is recognised without regard to case, by the letters that count as one another, and is then put into small
letters. The two notions of case differ for three characters: the long s, the dotless i and the capital i with a dot
are accepted but do not become an s or an i. The first directive of a header decides if it is spelled without them; one
that is spelled with them is as good as none.
-/

namespace AwaitLint

namespace Text

/-! ## Which characters have an ASCII letter as their small form -/

/-- The runs of a table whose lines are given by their characters. -/
def runsOf (css : List (List Char)) : List LowerRun :=
  (css.flatMap fun cs => (splitChar ' ' cs).filter (· ≠ [])).map lowerRunOf

theorem lowerRuns_of_spelled {css : List (List Char)} (spelled : css.map String.ofList = lowerRunsText) :
    lowerRuns = runsOf css := by
  simp [lowerRuns, wordsOf, runsOf, ← spelled, List.flatMap_map]

/-- The last code point of a run. -/
def LowerRun.last (r : LowerRun) : Nat := r.first + r.step * (r.count - 1)

/-- The code points that are neither moved nor what others are moved to. -/
def fixedPoints : List Nat := [0x131, 0x17F]

/-- The sign for kelvin, whose small form is a `k`. -/
def kelvin : Nat := 0x212A

/-- The run moves no code point below 128 or out of the code points, leaves the fixed points alone, and the sign for
kelvin. -/
def LowerRun.staysFar (r : LowerRun) : Bool :=
  decide (128 ≤ r.first + r.shift) &&
    (decide (r.last + r.shift < 0xD800) || decide (0xE000 ≤ r.first + r.shift ∧ r.last + r.shift < 0x110000)) &&
    (fixedPoints.all fun n => !r.covers n && !r.covers (n - r.shift).toNat) && !r.covers kelvin

/-- The run of the sign for kelvin alone. -/
def LowerRun.isKelvin (r : LowerRun) : Bool :=
  decide (r.first = kelvin) && decide (r.count = 1) && decide (r.shift = 'k'.toNat - (kelvin : Int))

theorem lowerRuns_checked :
    (∀ r ∈ lowerRuns, r.staysFar = true ∨ r.isKelvin = true) ∧ ∃ r ∈ lowerRuns, r.covers kelvin = true := by
  -- As with the steps of the other tables, unification takes the lines apart faster than evaluation.
  have run : ∀ {css : List (List Char)}, css.map String.ofList = lowerRunsText →
      ((runsOf css).all fun r => r.staysFar || r.isKelvin) = true →
      ((runsOf css).any fun r => r.covers kelvin) = true →
      (∀ r ∈ lowerRuns, r.staysFar = true ∨ r.isKelvin = true) ∧ ∃ r ∈ lowerRuns, r.covers kelvin = true := by
    intro css spelled all any
    rw [lowerRuns_of_spelled spelled]
    exact ⟨by simpa using List.all_eq_true.1 all, List.any_eq_true.1 any⟩
  apply run
  · dsimp only [lowerRunsText]
    repeat' apply map_ofList_cons rfl
    exact List.map_nil
  · decide +kernel
  · decide +kernel

theorem LowerRun.bounds_of_covers {r : LowerRun} {n : Nat} (h : r.covers n = true) : r.first ≤ n ∧ n ≤ r.last := by
  simp only [covers, Bool.and_eq_true, decide_eq_true_eq, beq_iff_eq] at h
  obtain ⟨⟨hfirst, hmod⟩, hcount⟩ := h
  have hdiv := Nat.div_add_mod (n - r.first) r.step
  have hle : r.step * ((n - r.first) / r.step) ≤ r.step * (r.count - 1) := Nat.mul_le_mul_left _ (by omega)
  exact ⟨hfirst, by rw [last]; omega⟩

/-- A run that stays far moves a code point to a character above the ASCII ones that is no fixed point. -/
theorem LowerRun.toNat_ofNat_of_staysFar {r : LowerRun} {n : Nat} (far : r.staysFar = true) (h : r.covers n = true) :
    128 ≤ (Char.ofNat (n + r.shift).toNat).toNat ∧ (Char.ofNat (n + r.shift).toNat).toNat ∉ fixedPoints := by
  obtain ⟨hfirst, hlast⟩ := bounds_of_covers h
  simp only [staysFar, Bool.and_eq_true, Bool.or_eq_true, decide_eq_true_eq, List.all_eq_true,
    Bool.not_eq_true'] at far
  obtain ⟨⟨⟨low, range⟩, fixed⟩, -⟩ := far
  have valid : (n + r.shift).toNat.isValidChar := by
    rcases range with range | range
    · exact Or.inl (by omega)
    · exact Or.inr (by omega)
  have moved : (Char.ofNat (n + r.shift).toNat).toNat = (n + r.shift).toNat := by
    rw [Char.ofNat, dif_pos valid]
    rfl
  rw [moved]
  refine ⟨by omega, fun hmem => ?_⟩
  have hback : ((n + r.shift).toNat - r.shift).toNat = n := by omega
  have := (fixed _ hmem).2
  rw [hback, h] at this
  cases this

/-- The run of the sign for kelvin covers no other code point. -/
theorem LowerRun.eq_kelvin_of_covers {r : LowerRun} {n : Nat} (alone : r.isKelvin = true) (h : r.covers n = true) :
    n = kelvin ∧ Char.ofNat (n + r.shift).toNat = 'k' := by
  simp only [isKelvin, Bool.and_eq_true, decide_eq_true_eq] at alone
  obtain ⟨⟨first, count⟩, shift⟩ := alone
  obtain ⟨hfirst, hlast⟩ := bounds_of_covers h
  rw [last, first, count] at hlast
  obtain rfl : n = kelvin := by omega
  rw [shift]
  exact ⟨rfl, rfl⟩

/-- A character above the ASCII ones is moved by a run that covers it, or stays where it is. -/
theorem lowerChar_cases {c : Char} (h : 128 ≤ c.toNat) (dotted : c.toNat ≠ 0x130) :
    (∃ r ∈ lowerRuns, r.covers c.toNat = true ∧ lowerChar c = Char.ofNat (c.toNat + r.shift).toNat) ∨
      (∀ r ∈ lowerRuns, r.covers c.toNat = false) ∧ lowerChar c = c := by
  rw [lowerChar, if_neg (by omega), if_neg dotted]
  cases found : lowerRuns.find? fun r => r.covers c.toNat with
  | some r => exact .inl ⟨r, List.mem_of_find?_eq_some found, by simpa using List.find?_some found, rfl⟩
  | none => exact .inr ⟨by simpa using found, rfl⟩

/-- Apart from the capital i with a dot and the sign for kelvin, what is not ASCII stays so, and nothing else is moved
to a fixed point. -/
theorem lowerChar_far {c : Char} (h : 128 ≤ c.toNat) (dotted : c.toNat ≠ 0x130) (other : c.toNat ≠ kelvin) :
    128 ≤ (lowerChar c).toNat ∧ ((lowerChar c).toNat ∈ fixedPoints → lowerChar c = c) := by
  obtain ⟨r, hr, covers, moved⟩ | ⟨-, stays⟩ := lowerChar_cases h dotted
  · rcases lowerRuns_checked.1 r hr with far | alone
    · obtain ⟨high, free⟩ := LowerRun.toNat_ofNat_of_staysFar far covers
      rw [moved]
      exact ⟨high, fun hmem => absurd hmem free⟩
    · exact absurd (LowerRun.eq_kelvin_of_covers alone covers).1 other
  · rw [stays]
    exact ⟨h, fun _ => rfl⟩

theorem lowerChar_of_mem_fixedPoints {c : Char} (h : c.toNat ∈ fixedPoints) : lowerChar c = c := by
  have far : ∀ n ∈ fixedPoints, 128 ≤ n ∧ n ≠ 0x130 ∧ n ≠ kelvin := by decide
  obtain ⟨high, dotted, other⟩ := far _ h
  obtain ⟨r, hr, covers, -⟩ | ⟨-, stays⟩ := lowerChar_cases high dotted
  · rcases lowerRuns_checked.1 r hr with stays | alone
    · simp only [LowerRun.staysFar, Bool.and_eq_true, List.all_eq_true, Bool.not_eq_true'] at stays
      rw [(stays.1.2 _ h).1] at covers
      cases covers
    · exact absurd (LowerRun.eq_kelvin_of_covers alone covers).1 other
  · exact stays

theorem lowerChar_kelvin {c : Char} (h : c.toNat = kelvin) : lowerChar c = 'k' := by
  obtain ⟨r, hr, covers, moved⟩ | ⟨uncovered, -⟩ :=
    lowerChar_cases (show 128 ≤ c.toNat by rw [h]; decide) (show c.toNat ≠ 0x130 by rw [h]; decide)
  · rcases lowerRuns_checked.1 r hr with stays | alone
    · rw [h] at covers
      simp [LowerRun.staysFar, covers] at stays
    · exact moved.trans (LowerRun.eq_kelvin_of_covers alone covers).2
  · obtain ⟨r, hr, covers⟩ := lowerRuns_checked.2
    rw [← h, uncovered r hr] at covers
    cases covers

end Text

namespace Comment

open Text (isBlank)

/-! ## The spellings of a word -/

/-- The characters that are taken for an `i` or an `s` but have another small form: the capital i with a dot, the
dotless i and the long s. -/
def strays : List Char := [Char.ofNat 0x130, Char.ofNat 0x131, Char.ofNat 0x17F]

/-- The characters that count as a small letter: the letter in either case, and what looks or means the same. -/
def spellings (p : Char) : List Char :=
  p :: p.toUpper ::
    match p with
    | 'i' => [Char.ofNat 0x130, Char.ofNat 0x131]
    | 'k' => [Char.ofNat Text.kelvin]
    | 's' => [Char.ofNat 0x17F]
    | _ => []

/-- The letters of the words that make a directive. -/
def directiveLetters : List Char := "waterfall:checkskip".toList

/-- What holds of all spellings of all letters is decided letter by letter. -/
theorem of_forall_spellings {P : Char → Char → Prop} (h : directiveLetters.Forall fun p => (spellings p).Forall (P p))
    {p c : Char} (hp : p ∈ directiveLetters) (hc : c ∈ spellings p) : P p c :=
  List.forall_iff_forall_mem.1 (List.forall_iff_forall_mem.1 h p hp) c hc

theorem isLetter_iff {p c : Char} (hp : p ∈ directiveLetters) : isLetter p c = true ↔ c ∈ spellings p := by
  have listed : directiveLetters.Forall fun p => (spellings p).Forall fun d =>
      d.toNat < 128 ∨ d.toNat = 0x130 ∨ d.toNat = Text.kelvin ∨ d.toNat ∈ Text.fixedPoints := by decide +kernel
  by_cases ascii : c.toNat < 128
  · have near : directiveLetters.Forall fun p =>
        ∀ n < 128, (isLetter p (Char.ofNat n) = true ↔ Char.ofNat n ∈ spellings p) := by decide +kernel
    simpa using List.forall_iff_forall_mem.1 near p hp c.toNat ascii
  by_cases dotted : c.toNat = 0x130
  · have hc : c = Char.ofNat 0x130 := by rw [← dotted, Char.ofNat_toNat]
    have small : Text.lowerChar c = 'i' := by rw [hc]; rfl
    rw [isLetter, small, hc]
    revert p
    rw [← List.forall_iff_forall_mem]
    decide +kernel
  by_cases kelvin : c.toNat = Text.kelvin
  · have hc : c = Char.ofNat Text.kelvin := by rw [← kelvin, Char.ofNat_toNat]
    rw [isLetter, Text.lowerChar_kelvin kelvin, hc]
    revert p
    rw [← List.forall_iff_forall_mem]
    decide +kernel
  by_cases fixed : c.toNat ∈ Text.fixedPoints
  · have hc : c ∈ Text.fixedPoints.map Char.ofNat := List.mem_map.2 ⟨_, fixed, Char.ofNat_toNat c⟩
    rw [isLetter, Text.lowerChar_of_mem_fixedPoints fixed]
    revert p
    rw [← List.forall_iff_forall_mem]
    rcases List.mem_pair.1 hc with rfl | rfl <;> decide +kernel
  -- What is left is taken to characters that are neither letters nor stray ones.
  · obtain ⟨high, moved⟩ := Text.lowerChar_far (by omega) dotted kelvin
    have hfixed : (Text.lowerChar c).toNat ∉ Text.fixedPoints := fun h => fixed (moved h ▸ h)
    have hne : Text.lowerChar c ≠ p := by
      rintro rfl
      have ascii : ∀ p ∈ directiveLetters, p.toNat < 128 := List.forall_iff_forall_mem.1 (by decide +kernel)
      exact absurd (ascii _ hp) (by omega)
    have : c ∉ spellings p := by
      intro h
      rcases of_forall_spellings listed hp h with h | h | h | h <;> contradiction
    simp only [Text.fixedPoints, List.mem_cons, List.not_mem_nil, or_false, not_or] at hfixed
    simp [isLetter, hne, hfixed, this]

/-- The letters spell the word. -/
def Spells (word letters : List Char) : Prop := List.Forall₂ (fun p c => c ∈ spellings p) word letters

section Words

variable {word letters cs rest : List Char}

theorem afterWord?_eq_some_iff (hword : ∀ p ∈ word, p ∈ directiveLetters) :
    afterWord? word cs = some rest ↔ ∃ letters, Spells word letters ∧ cs = letters ++ rest := by
  induction word generalizing cs with
  | nil => simp [afterWord?, Spells, eq_comm]
  | cons p word ih =>
    rw [List.forall_mem_cons] at hword
    cases cs with
    | nil => simp [afterWord?, Spells]
    | cons c cs =>
      simp only [afterWord?]
      split
      case isTrue h =>
        rw [ih hword.2]
        constructor
        · rintro ⟨letters, spells, rfl⟩
          exact ⟨c :: letters, .cons ((isLetter_iff hword.1).1 h) spells, rfl⟩
        · rintro ⟨letters, spells, hcs⟩
          cases spells with
          | cons hc spells =>
            obtain ⟨rfl, rfl⟩ := List.cons.inj hcs
            exact ⟨_, spells, rfl⟩
      case isFalse h =>
        simp only [reduceCtorEq, false_iff, not_exists, not_and]
        rintro letters spells hcs
        cases spells with
        | cons hc spells =>
          obtain ⟨rfl, -⟩ := List.cons.inj hcs
          exact h ((isLetter_iff hword.1).2 hc)

theorem lastWord?_eq_some_iff {word : String} (hword : ∀ p ∈ word.toList, p ∈ directiveLetters) :
    lastWord? word cs = some letters ↔ Spells word.toList letters ∧ ∃ g : Gap, cs = letters ++ g.chars := by
  constructor
  · intro h
    rw [lastWord?] at h
    split at h
    case h_1 rest hrest =>
      obtain ⟨letters', spells, rfl⟩ := (afterWord?_eq_some_iff hword).1 hrest
      split at h
      case isTrue blank =>
        have : word.length = letters'.length := String.length_toList.symm.trans spells.length_eq
        rw [this, List.take_left, Option.some.injEq] at h
        subst h
        exact ⟨spells, ⟨rest, List.all_eq_true.1 blank⟩, rfl⟩
      case isFalse => cases h
    case h_2 => cases h
  · rintro ⟨spells, g, rfl⟩
    have hrest : afterWord? word.toList (letters ++ g.chars) = some g.chars :=
      (afterWord?_eq_some_iff hword).2 ⟨letters, spells, rfl⟩
    have hlen : word.length = letters.length := String.length_toList.symm.trans spells.length_eq
    simp only [lastWord?, hrest, List.all_eq_true.2 g.blank, if_true, hlen, List.take_left]

theorem not_isBlank_of_spells (hword : ∀ p ∈ word, p ∈ directiveLetters) (spells : Spells word letters) :
    ∀ c ∈ letters, isBlank c = false := by
  have solid : directiveLetters.Forall fun p => (spellings p).Forall fun c => isBlank c = false := by decide +kernel
  induction spells with
  | nil => simp
  | cons hc spells ih =>
    rw [List.forall_mem_cons] at hword ⊢
    exact ⟨of_forall_spellings solid hword.1 hc, ih hword.2⟩

theorem lowerChar_of_mem_spellings {p c : Char} (hp : p ∈ directiveLetters) (hc : c ∈ spellings p)
    (plain : c ∉ strays) : Text.lowerChar c = p := by
  have kinds : directiveLetters.Forall fun p => (spellings p).Forall fun c =>
      c ∉ strays → c.toNat < 128 ∧ c.toLower = p ∨ c.toNat = Text.kelvin ∧ p = 'k' := by decide +kernel
  obtain ⟨ascii, rfl⟩ | ⟨kelvin, rfl⟩ := of_forall_spellings kinds hp hc plain
  · rw [Text.lowerChar, if_pos ascii]
  · exact Text.lowerChar_kelvin kelvin

/-- The small form of a word that is spelled without stray letters is the word. -/
theorem lowerAfter_of_spells (hword : ∀ p ∈ word, p ∈ directiveLetters) (spells : Spells word letters)
    (plain : ∀ c ∈ letters, c ∉ strays) (before : List Char) : Text.lowerAfter before letters = word := by
  have single : directiveLetters.Forall fun p => (spellings p).Forall fun c => c.toNat ≠ 0x3A3 := by decide +kernel
  induction spells generalizing before with
  | nil => rfl
  | @cons p c word letters hc spells ih =>
    rw [List.forall_mem_cons] at hword plain
    have hi : c.toNat ≠ 0x130 := fun h => plain.1 (by rw [← Char.ofNat_toNat c, h]; decide)
    rw [Text.lowerAfter, if_neg (of_forall_spellings single hword.1 hc), if_neg hi,
      lowerChar_of_mem_spellings hword.1 hc plain.1, ih hword.2 plain.2]
    rfl

/-- A stray letter leaves a letter in the small form that is not ASCII. -/
theorem exists_far_of_stray {c : Char} (hc : c ∈ letters) (stray : c ∈ strays) (before : List Char) :
    ∃ d ∈ Text.lowerAfter before letters, 128 ≤ d.toNat := by
  induction letters generalizing before with
  | nil => cases hc
  | cons x letters ih =>
    rw [Text.lowerAfter]
    rcases List.mem_cons.1 hc with rfl | hc
    · have kinds : strays.Forall fun c => c.toNat ≠ 0x3A3 ∧
          (c.toNat = 0x130 ∨ c.toNat ≠ 0x130 ∧ c.toNat ∈ Text.fixedPoints ∧ 128 ≤ c.toNat) := by decide
      obtain ⟨hs, hi | ⟨hi, fixed, far⟩⟩ := List.forall_iff_forall_mem.1 kinds c stray
      · rw [if_neg hs, if_pos hi]
        exact ⟨Char.ofNat 0x307, by simp, by decide⟩
      · rw [if_neg hs, if_neg hi, Text.lowerChar_of_mem_fixedPoints fixed]
        exact ⟨c, by simp, far⟩
    · obtain ⟨d, hd, far⟩ := ih hc (x :: before)
      exact ⟨d, List.mem_append_right _ hd, far⟩

end Words

/-! ## Directives -/

theorem mem_directiveLetters_of_marker : ∀ p ∈ "waterfall:".toList, p ∈ directiveLetters :=
  List.forall_iff_forall_mem.1 (by decide)

theorem mem_directiveLetters_of_word {word : String} (h : word = "check" ∨ word = "skip") :
    ∀ p ∈ word.toList, p ∈ directiveLetters := by
  rcases h with rfl | rfl <;> exact List.forall_iff_forall_mem.1 (by decide)

/-- A comment that gives a directive. -/
structure Directive where
  lead : Gap
  gap : Gap
  marker : List Char
  marked : Spells "waterfall:".toList marker
  middle : Gap
  word : String
  known : word = "check" ∨ word = "skip"
  letters : List Char
  spelled : Spells word.toList letters
  trail : Gap

namespace Directive

/-- The directive without the white space around it. -/
def body (d : Directive) : List Char :=
  '#' :: (d.gap.chars ++ (d.marker ++ (d.middle.chars ++ d.letters)))

def text (d : Directive) : List Char := d.lead.chars ++ d.body ++ d.trail.chars

/-- The word as it is read. -/
def small (d : Directive) : String := Text.lower (String.ofList d.letters)

/-- The word is spelled without a stray letter. -/
def Plain (d : Directive) : Prop := ∀ c ∈ d.letters, c ∉ strays

theorem mem_directiveLetters (d : Directive) : ∀ p ∈ d.word.toList, p ∈ directiveLetters :=
  mem_directiveLetters_of_word d.known

theorem letters_ne_nil (d : Directive) : d.letters ≠ [] := by
  intro h
  have := d.spelled.length_eq
  rcases d.known with hw | hw <;> rw [h, hw] at this <;> cases this

theorem marker_ne_nil (d : Directive) : d.marker ≠ [] := by
  intro h
  have := d.marked
  rw [h] at this
  cases this

theorem bare_body (d : Directive) : Text.Bare d.body where
  nonempty := List.cons_ne_nil _ _
  first := by
    intro c hc
    obtain rfl : '#' = c := by simpa [body] using hc
    decide
  last := by
    intro c hc
    have hletters : d.body.getLast? = d.letters.getLast? := by
      simp only [body, ← List.cons_append, ← List.append_assoc]
      exact List.getLast?_append_of_ne_nil _ d.letters_ne_nil
    rw [hletters] at hc
    exact not_isBlank_of_spells d.mem_directiveLetters d.spelled c (List.mem_of_getLast? hc)

end Directive

/-- A text that starts like one of the words does not start like the other. -/
theorem lastWord?_check_of_spells_skip {letters : List Char} (h : Spells "skip".toList letters) :
    lastWord? "check" letters = none := by
  cases h with
  | @cons _ c _ letters hc spells =>
    have other : ∀ c ∈ spellings 's', c ∉ spellings 'c' := List.forall_iff_forall_mem.1 (by decide)
    have : isLetter 'c' c = false := by
      rw [← Bool.not_eq_true, isLetter_iff (by decide)]
      exact other c hc
    simp [lastWord?, afterWord?, this]

/-- A comment gives a directive if and only if it is spelled as one, and it gives the word as it is read. -/
theorem directiveOf?_eq_some_iff {comment read : String} :
    directiveOf? comment = some read ↔ ∃ d : Directive, comment.toList = d.text ∧ read = d.small := by
  constructor
  · intro h
    rw [directiveOf?] at h
    split at h
    case h_2 => cases h
    case h_1 cs hstrip =>
    split at h
    case h_2 => cases h
    case h_1 rest hrest =>
    obtain ⟨lead, trail, hcomment, blank⟩ := Text.exists_lead_trail comment.toList
    rw [List.forall_mem_append] at blank
    obtain ⟨gap, hgap⟩ := exists_gap cs
    obtain ⟨marker, marked, hmarker⟩ := (afterWord?_eq_some_iff mem_directiveLetters_of_marker).1 hrest
    obtain ⟨middle, hmiddle⟩ := exists_gap rest
    obtain ⟨letters, hletters, rfl⟩ := Option.map_eq_some_iff.1 h
    have read : ∃ word, (word = "check" ∨ word = "skip") ∧ lastWord? word (skipBlanks rest) = some letters := by
      rcases Option.or_eq_some_iff.1 hletters with h | ⟨-, h⟩
      · exact ⟨_, .inl rfl, h⟩
      · exact ⟨_, .inr rfl, h⟩
    obtain ⟨word, known, hlast⟩ := read
    obtain ⟨spelled, g, hg⟩ := (lastWord?_eq_some_iff (mem_directiveLetters_of_word known)).1 hlast
    have blankTail : ∀ c ∈ g.chars ++ trail, isBlank c = true := List.forall_mem_append.2 ⟨g.blank, blank.2⟩
    refine ⟨⟨⟨lead, blank.1⟩, gap, marker, marked, middle, word, known, letters, spelled,
      ⟨g.chars ++ trail, blankTail⟩⟩, ?_, rfl⟩
    rw [hcomment, hstrip, hgap, hmarker, hmiddle, hg]
    simp [Directive.text, Directive.body]
  · rintro ⟨d, hcomment, rfl⟩
    have blank : ∀ c ∈ d.lead.chars ++ d.trail.chars, isBlank c = true :=
      List.forall_mem_append.2 ⟨d.lead.blank, d.trail.blank⟩
    have hstrip : Text.stripList comment.toList = d.body := by
      rw [hcomment]
      exact Text.stripList_append blank d.bare_body
    have hgap : skipBlanks (d.gap.chars ++ (d.marker ++ (d.middle.chars ++ d.letters))) =
        d.marker ++ (d.middle.chars ++ d.letters) := by
      refine d.gap.skipBlanks_append fun c hc => ?_
      rw [List.head?_append_of_ne_nil _ d.marker_ne_nil] at hc
      exact not_isBlank_of_spells mem_directiveLetters_of_marker d.marked c (List.mem_of_head? hc)
    have hmarker : afterWord? "waterfall:".toList (d.marker ++ (d.middle.chars ++ d.letters)) =
        some (d.middle.chars ++ d.letters) :=
      (afterWord?_eq_some_iff mem_directiveLetters_of_marker).2 ⟨_, d.marked, rfl⟩
    have hmiddle : skipBlanks (d.middle.chars ++ d.letters) = d.letters := by
      refine d.middle.skipBlanks_append fun c hc => ?_
      exact not_isBlank_of_spells d.mem_directiveLetters d.spelled c (List.mem_of_head? hc)
    have hlast : lastWord? d.word d.letters = some d.letters :=
      (lastWord?_eq_some_iff d.mem_directiveLetters).2 ⟨d.spelled, ⟨[], List.forall_mem_nil _⟩, by simp⟩
    have hor : (lastWord? "check" d.letters).or (lastWord? "skip" d.letters) = some d.letters := by
      rcases d.known with hw | hw
      · rw [hw] at hlast
        rw [hlast, Option.some_or]
      · have := lastWord?_check_of_spells_skip (hw ▸ d.spelled)
        rw [hw] at hlast
        rw [this, hlast, Option.none_or]
    simp only [directiveOf?, hstrip, Directive.body, hgap, hmarker, hmiddle, hor, Option.map_some, Directive.small]

namespace Directive

theorem small_of_plain {d : Directive} (h : d.Plain) : d.small = d.word := by
  rw [small, Text.lower, String.toList_ofList, lowerAfter_of_spells d.mem_directiveLetters d.spelled h,
    String.ofList_toList]

theorem small_of_not_plain {d : Directive} (h : ¬ d.Plain) : d.small ≠ "check" ∧ d.small ≠ "skip" := by
  simp only [Plain, not_forall, not_not] at h
  obtain ⟨c, hc, stray⟩ := h
  obtain ⟨x, hx, far⟩ := exists_far_of_stray hc stray []
  have ascii : ∀ word : String, (∀ p ∈ word.toList, p.toNat < 128) → d.small ≠ word := by
    rintro _ hword rfl
    have := hword x (by simpa [small, Text.lower] using hx)
    omega
  exact ⟨ascii _ (List.forall_iff_forall_mem.1 (by decide)), ascii _ (List.forall_iff_forall_mem.1 (by decide))⟩

end Directive

end Comment

namespace Eligibility

theorem resolve_of_not_directive {read : String} (h : read ≠ "check" ∧ read ≠ "skip") (filename : Option String)
    (handlers services : String) :
    resolve filename (some read) handlers services = resolve filename none handlers services := by
  simp [resolve, h.1, h.2]

end Eligibility

namespace Comment

/-- No directive stands among the comments. -/
def Undirected (header : List String) : Prop := ∀ comment ∈ header, ∀ d : Directive, comment.toList ≠ d.text

theorem undirected_iff {header : List String} : Undirected header ↔ ∀ c ∈ header, directiveOf? c = none := by
  simp only [Undirected, Option.eq_none_iff_forall_ne_some, ne_eq, directiveOf?_eq_some_iff, not_exists, not_and]
  refine forall₂_congr fun c _ => ⟨fun h _ d hd => absurd hd (h d), fun h d hd => h _ d hd rfl⟩

/-- The first directive of a header decides what applies to the file, unless it is spelled with a stray letter: then it
is read as none of the words, and the name of the file decides as if there were no directive. -/
theorem readDirective_first (header : List String) :
    (readDirective header = none ∧ Undirected header) ∨
    ∃ before comment after, header = before ++ comment :: after ∧ Undirected before ∧
      ∃ d : Directive, comment.toList = d.text ∧ readDirective header = some d.small ∧
        ∀ filename handlers services,
          (d.Plain → d.small = d.word ∧ Eligibility.resolve filename (readDirective header) handlers services =
            if d.word = "check" then .everything else .nothing) ∧
          (¬ d.Plain → d.small ≠ "check" ∧ d.small ≠ "skip" ∧
            Eligibility.resolve filename (readDirective header) handlers services =
              Eligibility.resolve filename none handlers services) := by
  cases h : readDirective header with
  | none => exact .inl ⟨rfl, undirected_iff.2 (List.findSome?_eq_none_iff.1 h)⟩
  | some read =>
    obtain ⟨before, comment, after, rfl, found, none_before⟩ := List.findSome?_eq_some_iff.1 h
    obtain ⟨d, hd, rfl⟩ := directiveOf?_eq_some_iff.1 found
    refine .inr ⟨before, comment, after, rfl, undirected_iff.2 none_before, d, hd, rfl, ?_⟩
    intro filename handlers services
    refine ⟨fun plain => ?_, fun stray => ?_⟩
    · rw [Directive.small_of_plain plain]
      refine ⟨rfl, ?_⟩
      rcases d.known with hw | hw <;> simp [hw, Eligibility.resolve]
    · have other := Directive.small_of_not_plain stray
      exact ⟨other.1, other.2, Eligibility.resolve_of_not_directive other _ _ _⟩

/-- A directive to skip a file, spelled with a long s. -/
theorem exists_longSkip :
    ∃ d : Directive, "# waterfall: \u017fkip".toList = d.text ∧ "\u017fkip" = d.small := by
  have none : ∀ c ∈ [], Text.isBlank c = true := List.forall_mem_nil _
  have space : ∀ c ∈ [' '], Text.isBlank c = true := List.forall_iff_forall_mem.1 (by decide)
  have marked : Spells "waterfall:".toList "waterfall:".toList := by unfold Spells; decide
  have spelled : Spells "skip".toList ['\u017f', 'k', 'i', 'p'] := by unfold Spells; decide
  refine ⟨⟨⟨[], none⟩, ⟨[' '], space⟩, _, marked, ⟨[' '], space⟩, _, .inr rfl, _, spelled, ⟨[], none⟩⟩, ?_, ?_⟩
  · simp only [Directive.text, Directive.body]
    decide
  · have long : Text.lowerChar '\u017f' = '\u017f' := Text.lowerChar_of_mem_fixedPoints (by decide)
    rw [Directive.small, Text.lower, String.toList_ofList]
    simp only [Text.lowerAfter, long]
    decide

/-- The long s is accepted and kept, so a directive to skip the file leaves the waterfall rule to the file's name. -/
theorem readDirective_keeps_long_s :
    let header := ["# waterfall: \u017fkip"]
    (∃ comment ∈ header, (directiveOf? comment).isSome) ∧
    readDirective header ≠ none ∧ readDirective header ≠ some "check" ∧ readDirective header ≠ some "skip" ∧
    Eligibility.resolve (some "app/services/users.py") (readDirective header) "*/api/*" "*/services/*" =
      ⟨true, false⟩ := by
  intro header
  have given : directiveOf? "# waterfall: \u017fkip" = some "\u017fkip" :=
    directiveOf?_eq_some_iff.2 exists_longSkip
  have read : readDirective header = some "\u017fkip" := by simp [readDirective, header, given]
  rw [read]
  refine ⟨⟨_, List.mem_singleton_self _, by rw [given]; rfl⟩, by decide, by decide, by decide, ?_⟩
  decide +kernel

end Comment
end AwaitLint
