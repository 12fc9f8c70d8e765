import Mathlib.Algebra.Order.Ring.Nat
import AwaitLint.Text.Blank
import AwaitLint.Text.Word

/-! # Word characters are not blank

The boundaries of a set of code points are the sums of the steps of its table, so they ascend, and halving finds how
many of them are not above a code point. What the table of word characters says of the blanks then follows by running
along its steps once.
-/

namespace AwaitLint.Text

/-- The sums of a list of steps that start at `n`. -/
def sumsFrom : Nat → List Nat → List Nat
  | _, [] => []
  | n, k :: ks => (n + k) :: sumsFrom (n + k) ks

theorem length_sumsFrom (n : Nat) (ks : List Nat) : (sumsFrom n ks).length = ks.length := by
  induction ks generalizing n with
  | nil => rfl
  | cons k ks ih => simp [sumsFrom, ih]

theorem le_of_mem_sumsFrom {n b : Nat} {ks : List Nat} (h : b ∈ sumsFrom n ks) : n ≤ b := by
  induction ks generalizing n with
  | nil => simp [sumsFrom] at h
  | cons k ks ih =>
    rcases List.mem_cons.1 h with rfl | h
    · exact Nat.le_add_right n k
    · exact Nat.le_trans (Nat.le_add_right n k) (ih h)

theorem pairwise_sumsFrom (n : Nat) (ks : List Nat) : (sumsFrom n ks).Pairwise (· ≤ ·) := by
  induction ks generalizing n with
  | nil => exact .nil
  | cons k ks ih => exact .cons (fun _ hb => le_of_mem_sumsFrom hb) (ih _)

theorem toList_boundsOfSteps (lines : List String) :
    (boundsOfSteps lines).toList = sumsFrom 0 ((wordsOf lines).map hexValue) := by
  have run : ∀ (ws : List (List Char)) (n : Nat) (a : Array Nat),
      (ws.foldl (fun (acc : Nat × Array Nat) w => (acc.1 + hexValue w, acc.2.push (acc.1 + hexValue w)))
        (n, a)).2.toList = a.toList ++ sumsFrom n (ws.map hexValue) := by
    intro ws
    induction ws with
    | nil => intro n a; simp [sumsFrom]
    | cons w ws ih => intro n a; simp [sumsFrom, ih]
  simpa [boundsOfSteps] using run (wordsOf lines) 0 #[]

/-- All entries before `lo` are at most `x`, and all from `hi` on are above it. -/
structure Parts (a : Array Nat) (x lo hi : Nat) : Prop where
  le_hi : lo ≤ hi
  hi_le : hi ≤ a.size
  below : ∀ i < lo, a.getD i 0 ≤ x
  above : ∀ i, hi ≤ i → i < a.size → x < a.getD i 0

theorem getD_mono {a : Array Nat} (sorted : a.toList.Pairwise (· ≤ ·)) {i j : Nat} (hij : i ≤ j) (hj : j < a.size) :
    a.getD i 0 ≤ a.getD j 0 := by
  rcases Nat.eq_or_lt_of_le hij with rfl | hlt
  · exact Nat.le_refl _
  · have hi : i < a.size := by omega
    simpa [Array.getD, hi, hj] using List.pairwise_iff_getElem.1 sorted i j hi hj hlt

theorem parts_rankBetween {a : Array Nat} (sorted : a.toList.Pairwise (· ≤ ·)) {x fuel lo hi : Nat}
    (h : Parts a x lo hi) (enough : hi - lo < 2 ^ fuel) :
    Parts a x (rankBetween a x fuel lo hi) (rankBetween a x fuel lo hi) := by
  induction fuel generalizing lo hi with
  | zero =>
    have : lo = hi := by have := h.le_hi; omega
    subst this
    exact h
  | succ fuel ih =>
    have hle := h.le_hi
    have hsize := h.hi_le
    rw [rankBetween]
    split
    · have hmid : (lo + hi) / 2 < a.size := by omega
      dsimp only
      by_cases hx : a.getD ((lo + hi) / 2) 0 ≤ x
      · rw [if_pos hx]
        refine ih ⟨by omega, hsize, ?_, h.above⟩ (by omega)
        intro i hlt
        exact Nat.le_trans (getD_mono sorted (by omega) hmid) hx
      · rw [if_neg hx]
        refine ih ⟨by omega, by omega, h.below, ?_⟩ (by omega)
        intro i hle hlt
        exact Nat.lt_of_lt_of_le (Nat.lt_of_not_le hx) (getD_mono sorted hle hlt)
    · have : lo = hi := by omega
      subst this
      exact h

theorem Parts.length_takeWhile {a : Array Nat} {x r : Nat} (h : Parts a x r r) :
    (a.toList.takeWhile (· ≤ x)).length = r := by
  have low : ∀ b ∈ a.toList.take r, decide (b ≤ x) = true := by
    intro b hb
    obtain ⟨i, hi, rfl⟩ := List.mem_take_iff_getElem.1 hb
    have := h.below i (by omega)
    simpa [Array.getD, show i < a.size by simp at hi; omega] using this
  have high : (a.toList.drop r).takeWhile (· ≤ x) = [] := by
    cases hd : a.toList.drop r with
    | nil => rfl
    | cons b bs =>
      have hr : r < a.size := by
        have := congrArg List.length hd
        simp at this
        omega
      have hb : a.toList[r] = b := by
        have := congrArg (·[0]?) hd
        simpa [hr] using this
      have := h.above r (Nat.le_refl r) hr
      have hx : ¬ b ≤ x := by
        rw [← hb]
        simpa [Array.getD, hr] using this
      simp [hx]
  rw [← List.take_append_drop r a.toList, List.takeWhile_append_of_pos low, high, List.append_nil, List.length_take]
  exact Nat.min_eq_left h.hi_le

/-- A code point is looked up by running along the steps of the table. -/
theorem inBounds_boundsOfSteps {lines : List String} (short : (wordsOf lines).length < 2 ^ 32) (x : Nat) :
    inBounds (boundsOfSteps lines) x =
      (((sumsFrom 0 ((wordsOf lines).map hexValue)).takeWhile (· ≤ x)).length % 2 == 1) := by
  have sorted : (boundsOfSteps lines).toList.Pairwise (· ≤ ·) := by
    rw [toList_boundsOfSteps]
    exact pairwise_sumsFrom _ _
  have size : (boundsOfSteps lines).size = (wordsOf lines).length := by
    rw [← Array.length_toList, toList_boundsOfSteps, length_sumsFrom, List.length_map]
  have all : Parts (boundsOfSteps lines) x 0 (boundsOfSteps lines).size :=
    ⟨Nat.zero_le _, Nat.le_refl _, by simp, fun i h h' => absurd h' (by omega)⟩
  have found := (@parts_rankBetween _ sorted x 32 _ _ all (by omega)).length_takeWhile
  rw [toList_boundsOfSteps] at found
  rw [inBounds, rank, ← found]

/-- The steps of a table whose lines are given by their characters. -/
def stepsOf (css : List (List Char)) : List Nat :=
  (css.flatMap fun cs => (splitChar ' ' cs).filter (· ≠ [])).map hexValue

theorem inBounds_of_spelled {css : List (List Char)} {lines : List String} (spelled : css.map String.ofList = lines)
    (short : (stepsOf css).length < 2 ^ 32) (x : Nat) :
    inBounds (boundsOfSteps lines) x = (((sumsFrom 0 (stepsOf css)).takeWhile (· ≤ x)).length % 2 == 1) := by
  have words : (wordsOf lines).map hexValue = stepsOf css := by
    simp [← spelled, wordsOf, stepsOf, List.flatMap_map]
  rw [← words] at short ⊢
  exact inBounds_boundsOfSteps (by simpa using short) x

theorem map_ofList_cons {cs : List Char} {css : List (List Char)} {s : String} {lines : List String}
    (hs : String.ofList cs = s) (hlines : css.map String.ofList = lines) :
    (cs :: css).map String.ofList = s :: lines := by
  rw [List.map_cons, hs, hlines]

/-- The blanks beyond the first 128 code points. -/
def farBlanks : List Nat :=
  [0x85, 0xA0, 0x1680, 0x2000, 0x2001, 0x2002, 0x2003, 0x2004, 0x2005, 0x2006, 0x2007, 0x2008, 0x2009, 0x200A,
    0x2028, 0x2029, 0x202F, 0x205F, 0x3000]

theorem inBounds_wordBounds_farBlanks : ∀ n ∈ farBlanks, inBounds wordBounds n = false := by
  -- Unification takes the lines apart into their characters; to evaluate them as texts is slow.
  have run : ∀ {css : List (List Char)}, css.map String.ofList = wordSteps →
      ((stepsOf css).length < 2 ^ 32 ∧
        ∀ n ∈ farBlanks, ((sumsFrom 0 (stepsOf css)).takeWhile (· ≤ n)).length % 2 = 0) →
      ∀ n ∈ farBlanks, inBounds wordBounds n = false := by
    rintro css spelled ⟨short, even⟩ n hn
    rw [wordBounds, inBounds_of_spelled spelled short, even n hn]
    rfl
  apply run
  · dsimp only [wordSteps]
    repeat' apply map_ofList_cons rfl
    exact List.map_nil
  · decide +kernel

theorem near_or_far_of_isBlank {c : Char} (h : isBlank c = true) : c.toNat ≤ 32 ∨ c.toNat ∈ farBlanks := by
  simp only [isBlank, Bool.or_eq_true, beq_iff_eq, Bool.decide_and, Bool.and_eq_true, decide_eq_true_eq] at h
  simp only [farBlanks, List.mem_cons, List.not_mem_nil, or_false]
  omega

theorem lt_toNat_of_isWord {c : Char} (h : isWord c = true) : 32 < c.toNat := by
  have near : ∀ n < 128, ((Char.ofNat n).isAlphanum || Char.ofNat n == '_') = true → 32 < n := by decide +kernel
  by_cases hc : c.toNat < 128
  · refine near c.toNat hc ?_
    rwa [isWord, if_pos hc, ← Char.ofNat_toNat c] at h
  · omega

theorem isBlank_eq_false_of_isWord {c : Char} (h : isWord c = true) : isBlank c = false := by
  have hc := lt_toNat_of_isWord h
  rw [← Bool.not_eq_true]
  intro hblank
  rcases near_or_far_of_isBlank hblank with near | far
  · omega
  · have hn : ∀ n ∈ farBlanks, ¬ n < 128 := by decide
    simp [isWord, hn _ far, inBounds_wordBounds_farBlanks _ far] at h

end AwaitLint.Text
