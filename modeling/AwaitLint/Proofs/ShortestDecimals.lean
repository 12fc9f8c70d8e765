import AwaitLint.Number.Shortest
import AwaitLint.Proofs.JsonScalars
import AwaitLint.Proofs.NearestNumbers

/-! # Shortest decimals read back

Seventeen digits suffice for every number in normal form, so the search for the shortest decimal ends, and what it
finds is read as the number. The layout of the digits changes neither.
-/

namespace AwaitLint.Binary64

/-! ## Decimals as quotients -/

theorem shifted_pos (n : Nat) {d : Nat} (hd : 0 < d) (k : Int) : 0 < (shifted n d k).2 := by
  unfold shifted
  split
  · exact Nat.mul_pos hd (Nat.pow_pos (by decide))
  · exact hd

theorem shifted_ne_zero {num : Nat} (den : Nat) (hnum : num ≠ 0) (k : Int) : (shifted num den k).1 ≠ 0 := by
  unfold shifted
  split
  · exact hnum
  · exact Nat.mul_ne_zero hnum (Nat.pow_pos (by decide)).ne'

theorem shifted_value (num den : Nat) (k : Int) :
    ((shifted num den k).1 / (shifted num den k).2 : ℚ) = num / den * 10 ^ k := by
  unfold shifted
  split
  · next hk =>
    rw [zpow_eq_inv_pow 10 hk, ← div_eq_mul_inv, div_div]
    norm_cast
  · next hk =>
    rw [zpow_eq_pow 10 hk, div_mul_eq_mul_div]
    norm_cast

theorem two_pow_le_ten_zpow {a : Int} {j : Nat} (h : j ≤ a) : (2 : ℚ) ^ j ≤ 10 ^ a := by
  calc (2 : ℚ) ^ j ≤ 10 ^ j := by gcongr; norm_num
    _ = 10 ^ (j : Int) := (zpow_natCast _ _).symm
    _ ≤ 10 ^ a := zpow_le_zpow_right₀ (by norm_num) h

theorem ten_zpow_le_two_zpow {a : Int} {j : Nat} (h : a ≤ -j) : (10 : ℚ) ^ a ≤ 2 ^ (-j : Int) := by
  have := inv_anti₀ (by positivity) (two_pow_le_ten_zpow (show (j : Int) ≤ -a by omega))
  rwa [← zpow_neg, neg_neg, ← zpow_natCast, ← zpow_neg] at this

/-- Within the range of the numbers a decimal is read as the quotient that it is. -/
theorem ofDecimal_eq_ofRatio {k : Nat} (hk : k ≠ 0) {a : Int} (lower : (2 : ℚ) ^ (-1080 : Int) < k * 10 ^ a)
    (upper : (k * 10 ^ a : ℚ) < 2 ^ (1030 : Int)) (negative : Bool) :
    ofDecimal negative k a = ofRatio negative (shifted k 1 a).1 (shifted k 1 a).2 := by
  have hpow : (0 : ℚ) < 10 ^ a := by positivity
  have notLarge : ¬ 400 < a := by
    intro h
    have one : (1 : ℚ) ≤ k := by exact_mod_cast Nat.pos_of_ne_zero hk
    have : (2 : ℚ) ^ (1030 : Int) < k * 10 ^ a := by
      calc (2 : ℚ) ^ (1030 : Int) < 2 ^ ((3 * 400 : Nat) : Int) := zpow_lt_zpow_right₀ one_lt_two (by norm_num)
        _ = (2 ^ 3) ^ 400 := by rw [zpow_natCast, pow_mul]
        _ ≤ 10 ^ 400 := pow_le_pow_left₀ (by norm_num) (by norm_num) 400
        _ = 10 ^ ((400 : Nat) : Int) := (zpow_natCast _ _).symm
        _ ≤ 10 ^ a := zpow_le_zpow_right₀ (by norm_num) (by push_cast; omega)
        _ ≤ k * 10 ^ a := le_mul_of_one_le_left hpow.le one
    exact lt_asymm this upper
  have notSmall : ¬ a < -(2000 + (Nat.log2 k : Int)) := by
    intro h
    have size : (k : ℚ) < 2 ^ ((Nat.log2 k : Int) + 1) := by exact_mod_cast Nat.lt_log2_self
    have : (k * 10 ^ a : ℚ) < 2 ^ (-1080 : Int) := by
      calc (k * 10 ^ a : ℚ) < 2 ^ ((Nat.log2 k : Int) + 1) * 10 ^ a := by gcongr
        _ ≤ 2 ^ ((Nat.log2 k : Int) + 1) * 2 ^ (-((2000 + Nat.log2 k : Nat) : Int)) := by
          gcongr
          exact ten_zpow_le_two_zpow (by push_cast; omega)
        _ = 2 ^ (-1999 : Int) := by
          rw [← zpow_add₀ two_ne_zero]
          congr 1
          push_cast
          ring
        _ < 2 ^ (-1080 : Int) := zpow_lt_zpow_right₀ one_lt_two (by norm_num)
    exact lt_asymm this lower
  rw [ofDecimal, if_neg hk, if_neg notLarge]
  unfold shifted
  split
  · rw [Nat.one_mul]
  · rfl

theorem ofRatio_of_ofDecimal {k : Nat} (hk : k ≠ 0) {a : Int} {s : Bool} {m : Nat} {e : Int} (hm : m ≠ 0)
    (h : ofDecimal s k a = finite s m e) : ofRatio s (shifted k 1 a).1 (shifted k 1 a).2 = finite s m e := by
  have zero : finite s 0 minExponent ≠ finite s m e := fun heq => hm (finite.inj heq).2.1.symm
  rw [ofDecimal, if_neg hk] at h
  unfold shifted
  split at h
  · cases h
  · split at h
    · next ha =>
      rw [if_pos ha, Nat.one_mul]
      split at h
      · exact absurd h zero
      · exact h
    · next ha =>
      rw [if_neg ha]
      exact h

/-- Equal decimals are read as the same number. -/
theorem ofDecimal_congr {k k' : Nat} {a b : Int} (hk : k ≠ 0) (hk' : k' ≠ 0)
    (same : (k' * 10 ^ b : ℚ) = k * 10 ^ a) {m : Nat} {e : Int} (hm : m ≠ 0) {s : Bool}
    (h : ofDecimal s k a = finite s m e) (t : Bool) : ofDecimal t k' b = finite t m e := by
  have ratio := ofRatio_of_ofDecimal hk hm h
  have hnum := shifted_ne_zero 1 hk a
  have hden := shifted_pos k Nat.one_pos a
  have hden' := shifted_pos k' Nat.one_pos b
  have value := shifted_value k 1 a
  have value' := shifted_value k' 1 b
  rw [Nat.cast_one, div_one] at value value'
  obtain ⟨lower, upper⟩ := bounds_of_ofRatio hnum hden ratio hm
  rw [value, ← same] at lower upper
  have cross : (shifted k' 1 b).1 * (shifted k 1 a).2 = (shifted k 1 a).1 * (shifted k' 1 b).2 := by
    have hq : ((shifted k 1 a).2 : ℚ) ≠ 0 := by exact_mod_cast hden.ne'
    have hq' : ((shifted k' 1 b).2 : ℚ) ≠ 0 := by exact_mod_cast hden'.ne'
    have := value'.trans (same.trans value.symm)
    rw [div_eq_div_iff hq' hq] at this
    exact_mod_cast this
  rw [ofDecimal_eq_ofRatio hk' lower upper, ofRatio_congr (shifted_ne_zero 1 hk' b) hden' hnum hden cross]
  exact ofRatio_sign hnum hden ratio t

/-- The size of a number in normal form. -/
theorem bounds_of_normalForm {m : Nat} {e : Int} (h : NormalForm m e) (hm : 0 < m) :
    (2 : ℚ) ^ (-1074 : Int) ≤ m * 2 ^ e ∧ (m * 2 ^ e : ℚ) < 2 ^ (1024 : Int) := by
  have one : (1 : ℚ) ≤ m := by exact_mod_cast hm
  have fits : (m : ℚ) < 2 ^ (53 : Int) := by exact_mod_cast h.fits
  have hpow : (0 : ℚ) < 2 ^ e := by positivity
  have hmax : e ≤ 971 := h.greatest
  constructor
  · calc (2 : ℚ) ^ (-1074 : Int) ≤ 2 ^ e := zpow_le_zpow_right₀ one_le_two h.least
      _ ≤ m * 2 ^ e := le_mul_of_one_le_left hpow.le one
  · calc (m * 2 ^ e : ℚ) < 2 ^ (53 : Int) * 2 ^ e := by gcongr
      _ = 2 ^ (53 + e) := (zpow_add₀ two_ne_zero _ _).symm
      _ ≤ 2 ^ (1024 : Int) := zpow_le_zpow_right₀ one_le_two (by omega)

theorem ofDecimal_of_near {m : Nat} {e : Int} (hnormal : NormalForm m e) (hm : 0 < m) {k : Nat} {a : Int}
    (near : |(k * 10 ^ a : ℚ) - m * 2 ^ e| < m * 2 ^ e / 2 ^ 54) (negative : Bool) :
    ofDecimal negative k a = finite negative m e := by
  have hv : (0 : ℚ) < m * 2 ^ e := by positivity
  obtain ⟨lower, upper⟩ := abs_lt.1 near
  have half_lt : (m * 2 ^ e / 2 : ℚ) < k * 10 ^ a := by linarith
  have lt_double : (k * 10 ^ a : ℚ) < m * 2 ^ e * 2 := by linarith
  have hk : k ≠ 0 := by
    rintro rfl
    simp only [Nat.cast_zero, zero_mul] at half_lt
    linarith
  obtain ⟨least, greatest⟩ := bounds_of_normalForm hnormal hm
  have low : (2 : ℚ) ^ (-1080 : Int) < k * 10 ^ a := by
    calc (2 : ℚ) ^ (-1080 : Int) < 2 ^ (-1074 - 1 : Int) := zpow_lt_zpow_right₀ one_lt_two (by norm_num)
      _ = 2 ^ (-1074 : Int) / 2 := by rw [zpow_sub_one₀ two_ne_zero, div_eq_mul_inv]
      _ ≤ m * 2 ^ e / 2 := div_le_div_of_nonneg_right least two_pos.le
      _ < k * 10 ^ a := half_lt
  have high : (k * 10 ^ a : ℚ) < 2 ^ (1030 : Int) := by
    calc (k * 10 ^ a : ℚ) < m * 2 ^ e * 2 := lt_double
      _ < 2 ^ (1024 : Int) * 2 := mul_lt_mul_of_pos_right greatest two_pos
      _ = 2 ^ (1024 + 1 : Int) := (zpow_add_one₀ two_ne_zero _).symm
      _ < 2 ^ (1030 : Int) := zpow_lt_zpow_right₀ one_lt_two (by norm_num)
  have value := shifted_value k 1 a
  rw [Nat.cast_one, div_one] at value
  rw [ofDecimal_eq_ofRatio hk low high]
  exact ofRatio_of_near hnormal hm (shifted_pos k Nat.one_pos a) (by rwa [value]) negative

/-! ## The decimal point -/

theorem digitCount_pos (n : Nat) : 0 < digitCount n :=
  List.length_pos_of_ne_nil Nat.toDigits_ne_nil

theorem lt_pow_digitCount (n : Nat) : n < 10 ^ digitCount n :=
  (Nat.length_toDigits_le_iff (by decide) (digitCount_pos n)).1 (Nat.le_refl _)

theorem pow_digitCount_le {n : Nat} (hn : 0 < n) : 10 ^ (digitCount n - 1) ≤ n := by
  by_cases h : digitCount n = 1
  · rw [h]
    exact hn
  · have hpos := digitCount_pos n
    have := (Nat.length_toDigits_le_iff (b := 10) (n := n) (by decide) (show 0 < digitCount n - 1 by omega)).not
    exact Nat.le_of_not_lt (this.1 (by unfold digitCount at *; omega))

/-- The decimal point stands just above the number. -/
theorem decimalPoint_bounds {num den : Nat} (hnum : 0 < num) (hden : 0 < den) :
    (10 : ℚ) ^ (decimalPoint num den - 1) ≤ num / den ∧ (num / den : ℚ) < 10 ^ decimalPoint num den := by
  have hdq : (0 : ℚ) < den := by exact_mod_cast hden
  have floor : ∀ {n : Nat}, 0 < n → (10 : ℚ) ^ ((digitCount n : Int) - 1) ≤ n := by
    intro n hn
    rw [show (digitCount n : Int) - 1 = (digitCount n - 1 : Nat) by have := digitCount_pos n; omega, zpow_natCast]
    exact_mod_cast pow_digitCount_le hn
  have ceiling : ∀ n : Nat, (n : ℚ) < 10 ^ (digitCount n : Int) := by
    intro n
    exact_mod_cast lt_pow_digitCount n
  have lower : (10 : ℚ) ^ ((digitCount num : Int) - digitCount den - 1) ≤ num / den := by
    rw [le_div_iff₀ hdq]
    calc (10 : ℚ) ^ ((digitCount num : Int) - digitCount den - 1) * den
        ≤ 10 ^ ((digitCount num : Int) - digitCount den - 1) * 10 ^ (digitCount den : Int) := by
          gcongr
          exact (ceiling den).le
      _ = 10 ^ ((digitCount num : Int) - 1) := by
          rw [← zpow_add₀ (by norm_num)]
          congr 1
          ring
      _ ≤ num := floor hnum
  have upper : (num / den : ℚ) < 10 ^ ((digitCount num : Int) - digitCount den + 1) := by
    rw [div_lt_iff₀ hdq]
    calc (num : ℚ) < 10 ^ (digitCount num : Int) := ceiling num
      _ = 10 ^ ((digitCount num : Int) - digitCount den + 1) * 10 ^ ((digitCount den : Int) - 1) := by
          rw [← zpow_add₀ (by norm_num)]
          congr 1
          ring
      _ ≤ 10 ^ ((digitCount num : Int) - digitCount den + 1) * den := by
          gcongr
          exact floor hden
  unfold decimalPoint
  dsimp only
  generalize (digitCount num : Int) - digitCount den = guess at *
  have hpow : (0 : ℚ) < 10 ^ guess := by positivity
  have hshift := shifted_value num den (-guess)
  have hspos : (0 : ℚ) < (shifted num den (-guess)).2 := by exact_mod_cast shifted_pos num hden (-guess)
  rw [zpow_neg, ← div_eq_mul_inv] at hshift
  split
  · next hlt =>
    have : (num / den / 10 ^ guess : ℚ) < 1 := by
      rw [← hshift, div_lt_one hspos]
      exact_mod_cast hlt
    exact ⟨lower, (div_lt_one hpow).1 this⟩
  · next hge =>
    have : 1 ≤ (num / den / 10 ^ guess : ℚ) := by
      rw [← hshift, one_le_div hspos]
      exact_mod_cast Nat.le_of_not_lt hge
    rw [add_sub_cancel_right]
    exact ⟨(one_le_div hpow).1 this, upper⟩

/-! ## The search -/

theorem ratio_value (m : Nat) (e : Int) : ((ratio m e).1 / (ratio m e).2 : ℚ) = m * 2 ^ e := by
  unfold ratio
  split
  · next he =>
    rw [zpow_eq_inv_pow 2 he, ← div_eq_mul_inv]
    norm_cast
  · next he =>
    rw [zpow_eq_pow 2 he, Nat.cast_one, div_one]
    norm_cast

theorem ratio_fst_pos {m : Nat} (hm : 0 < m) (e : Int) : 0 < (ratio m e).1 := by
  unfold ratio
  split
  · exact hm
  · exact Nat.mul_pos hm (Nat.pow_pos two_pos)

/-- What the search finds reads as the number. -/
theorem ofDecimal_of_withDigits {x : Binary64} {num den : Nat} {point : Int} {count : Nat} {d : Decimal}
    (h : withDigits x num den point count = some d) : ofDecimal false d.digits d.exponent = x := by
  unfold withDigits at h
  dsimp only at h
  split at h
  · next hlow hnext =>
    split at h
    · obtain rfl := Option.some.inj h
      simpa using hlow
    · obtain rfl := Option.some.inj h
      simpa using hnext
  · next hlow hnext =>
    obtain rfl := Option.some.inj h
    simpa using hlow
  · next hlow hnext =>
    obtain rfl := Option.some.inj h
    simpa using hnext
  · cases h

theorem roundDiv_cases (n d : Nat) : roundDiv n d = n / d ∨ roundDiv n d = n / d + 1 := by
  unfold roundDiv
  dsimp only
  split
  · exact .inl rfl
  · split
    · exact .inr rfl
    · split
      · exact .inl rfl
      · exact .inr rfl

theorem isSome_withDigits {x : Binary64} {num den : Nat} {point : Int} {count : Nat}
    (h : ofDecimal false (roundDiv (shifted num den (count - point)).1 (shifted num den (count - point)).2)
      (-(count - point)) = x) :
    (withDigits x num den point count).isSome = true := by
  unfold withDigits
  dsimp only
  rcases roundDiv_cases (shifted num den (count - point)).1 (shifted num den (count - point)).2 with hr | hr
  · rw [hr] at h
    simp only [h, beq_self_eq_true]
    split
    · split <;> rfl
    · rfl
    · next hfalse _ => cases hfalse
    · next hfalse _ => cases hfalse
  · rw [hr] at h
    simp only [h, beq_self_eq_true]
    split
    · split <;> rfl
    · next hfalse => cases hfalse
    · rfl
    · next hfalse => cases hfalse

/-- Rounded to seventeen digits, a number in normal form is closer than a part in `2 ^ 54`. -/
theorem withDigits_seventeen {m : Nat} {e : Int} (hnormal : NormalForm m e) (hm : 0 < m) {num den : Nat}
    (hnum : 0 < num) (hden : 0 < den) (value : (num / den : ℚ) = m * 2 ^ e) :
    (withDigits (finite false m e) num den (decimalPoint num den) 17).isSome = true := by
  obtain ⟨lower, -⟩ := decimalPoint_bounds hnum hden
  generalize decimalPoint num den = point at *
  refine isSome_withDigits (ofDecimal_of_near hnormal hm ?_ false)
  generalize hshift : ((17 : Nat) : Int) - point = shift
  have hpow : (0 : ℚ) < 10 ^ (-shift) := by positivity
  have rounded := abs_roundDiv_sub_le (n := (shifted num den shift).1) (shifted_pos num hden shift)
  rw [shifted_value, value] at rounded
  have unit : (10 : ℚ) ^ (-shift) * 10 ^ 16 ≤ m * 2 ^ e := by
    calc (10 : ℚ) ^ (-shift) * 10 ^ 16 = 10 ^ (point - 1) := by
          rw [← zpow_natCast, ← zpow_add₀ (by norm_num)]
          congr 1
          push_cast at hshift ⊢
          omega
      _ ≤ m * 2 ^ e := value ▸ lower
  have back : (m * 2 ^ e * 10 ^ shift * 10 ^ (-shift) : ℚ) = m * 2 ^ e := by
    rw [mul_assoc, ← zpow_add₀ (by norm_num), add_neg_cancel, zpow_zero, mul_one]
  calc |(roundDiv (shifted num den shift).1 (shifted num den shift).2 * 10 ^ (-shift) : ℚ) - m * 2 ^ e|
      = |(roundDiv (shifted num den shift).1 (shifted num den shift).2 : ℚ) - m * 2 ^ e * 10 ^ shift| *
          10 ^ (-shift) := by
        rw [← abs_of_pos hpow, ← abs_mul, abs_of_pos hpow, sub_mul, back]
    _ ≤ 1 / 2 * 10 ^ (-shift) := mul_le_mul_of_nonneg_right rounded hpow.le
    _ < 10 ^ (-shift) * 10 ^ 16 / 2 ^ 54 := by
        rw [mul_div_assoc, mul_comm]
        exact mul_lt_mul_of_pos_left (by norm_num) hpow
    _ ≤ m * 2 ^ e / 2 ^ 54 := div_le_div_of_nonneg_right unit (by positivity)

theorem dropZeros_spec (fuel : Nat) (d : Decimal) (hd : d.digits ≠ 0) : (dropZeros fuel d).digits ≠ 0 ∧
    ((dropZeros fuel d).digits * 10 ^ (dropZeros fuel d).exponent : ℚ) = d.digits * 10 ^ d.exponent := by
  induction fuel generalizing d with
  | zero => exact ⟨hd, rfl⟩
  | succ fuel ih =>
    rw [dropZeros]
    split
    · next h =>
      have tenth : d.digits = d.digits / 10 * 10 := by omega
      obtain ⟨hne, hvalue⟩ := ih ⟨d.digits / 10, d.exponent + 1⟩ (by dsimp only; omega)
      refine ⟨hne, hvalue.trans ?_⟩
      have : (d.digits : ℚ) = (d.digits / 10 : Nat) * 10 := by exact_mod_cast tenth
      rw [this, zpow_add_one₀ (by norm_num)]
      ring
    · exact ⟨hd, rfl⟩

/-- The shortest decimal is read as the number. -/
theorem ofDecimal_shortest {m : Nat} {e : Int} (hnormal : NormalForm m e) (hm : 0 < m) : (shortest m e).digits ≠ 0 ∧
    ∀ negative, ofDecimal negative (shortest m e).digits (shortest m e).exponent = finite negative m e := by
  have last := withDigits_seventeen hnormal hm (ratio_fst_pos hm e) (ratio_pos m e) (ratio_value m e)
  obtain ⟨d, found⟩ : ∃ d, ((List.range 17).findSome? fun i => withDigits (finite false m e) (ratio m e).1
      (ratio m e).2 (decimalPoint (ratio m e).1 (ratio m e).2) (i + 1)) = some d := by
    rw [← Option.isSome_iff_exists, List.findSome?_isSome_iff]
    exact ⟨16, by simp, last⟩
  obtain ⟨i, -, hi⟩ := List.exists_of_findSome?_eq_some found
  have reads := ofDecimal_of_withDigits hi
  have hd : d.digits ≠ 0 := by
    intro h
    rw [h, ofDecimal, if_pos rfl] at reads
    exact hm.ne (finite.inj reads).2.1
  have short : shortest m e = dropZeros 20 d := by
    simp only [shortest, found, Option.getD_some]
  obtain ⟨hne, hvalue⟩ := dropZeros_spec 20 d hd
  rw [short]
  exact ⟨hne, fun negative => ofDecimal_congr hd hne hvalue hm.ne' reads negative⟩

end AwaitLint.Binary64
