import Mathlib.Algebra.Order.Field.Power
import Mathlib.Data.Rat.Cast.Order
import Mathlib.Tactic.FieldSimp
import Mathlib.Tactic.GCongr
import Mathlib.Tactic.Linarith
import Mathlib.Tactic.NormNum
import Mathlib.Tactic.Positivity
import Mathlib.Tactic.Ring
import AwaitLint.Number.Binary64

/-! # The number nearest to a quotient

A quotient is rounded at the least exponent at which the rounded mantissa has 53 digits. This exponent is the same for
equal quotients, and a quotient that is close enough to a number in normal form gives that number.
-/

namespace AwaitLint.Binary64

/-! ## Rounding to a natural -/

section Powers

variable (b : ℚ) {e : Int}

theorem zpow_eq_inv_pow (h : e < 0) : b ^ e = (b ^ e.natAbs)⁻¹ := by
  rw [← zpow_natCast, ← zpow_neg]
  congr 1
  omega

theorem zpow_eq_pow (h : ¬ e < 0) : b ^ e = b ^ e.natAbs := by
  rw [← zpow_natCast]
  congr 1
  omega

end Powers

theorem abs_roundDiv_sub_le {n d : Nat} (hd : 0 < d) : |(roundDiv n d : ℚ) - n / d| ≤ 1 / 2 := by
  have hdq : (0 : ℚ) < d := by exact_mod_cast hd
  have hn : (n : ℚ) / d = (n / d : Nat) + (n % d : Nat) / d := by
    have : (n : ℚ) = d * (n / d : Nat) + (n % d : Nat) := by exact_mod_cast (Nat.div_add_mod n d).symm
    rw [this]
    field_simp
  have hr : ((n % d : Nat) : ℚ) / d < 1 := by
    rw [div_lt_one hdq]
    exact_mod_cast Nat.mod_lt n hd
  have hr0 : (0 : ℚ) ≤ (n % d : Nat) / d := by positivity
  have low : 2 * (n % d) ≤ d → ((n % d : Nat) : ℚ) / d ≤ 1 / 2 := by
    intro h
    rw [div_le_div_iff₀ hdq two_pos]
    exact_mod_cast (by omega : n % d * 2 ≤ 1 * d)
  have high : d ≤ 2 * (n % d) → 1 / 2 ≤ ((n % d : Nat) : ℚ) / d := by
    intro h
    rw [div_le_div_iff₀ two_pos hdq]
    exact_mod_cast (by omega : 1 * d ≤ n % d * 2)
  rw [hn, abs_le]
  unfold roundDiv
  dsimp only
  split
  · have := low (by omega)
    constructor <;> linarith
  · split
    · have := high (by omega)
      push_cast
      constructor <;> linarith
    · have := low (by omega)
      have := high (by omega)
      split
      · constructor <;> linarith
      · push_cast
        constructor <;> linarith

theorem roundDiv_mul_right (n d : Nat) {c : Nat} (hc : 0 < c) : roundDiv (n * c) (d * c) = roundDiv n d := by
  have lt_iff : ∀ a b : Nat, 2 * (a * c) < b * c ↔ 2 * a < b := by
    intro a b
    rw [← Nat.mul_assoc]
    exact Nat.mul_lt_mul_right hc
  have lt_iff' : ∀ a b : Nat, b * c < 2 * (a * c) ↔ b < 2 * a := by
    intro a b
    rw [← Nat.mul_assoc]
    exact Nat.mul_lt_mul_right hc
  simp only [roundDiv, Nat.mul_div_mul_right _ _ hc, Nat.mul_mod_mul_right, lt_iff, lt_iff']

/-- Equal quotients are rounded alike. -/
theorem roundDiv_congr {n d n' d' : Nat} (hd : 0 < d) (hd' : 0 < d') (h : n * d' = n' * d) :
    roundDiv n d = roundDiv n' d' := by
  rw [← roundDiv_mul_right n d hd', ← roundDiv_mul_right n' d' hd, h, Nat.mul_comm d d']

theorem abs_scaled_sub_le (num : Nat) {den : Nat} (hden : 0 < den) (e : Int) :
    |(scaled num den e : ℚ) - num / den / 2 ^ e| ≤ 1 / 2 := by
  unfold scaled
  split
  · next he =>
    have h := abs_roundDiv_sub_le (n := num * 2 ^ e.natAbs) hden
    push_cast at h
    rw [zpow_eq_inv_pow 2 he, div_inv_eq_mul, div_mul_eq_mul_div]
    exact h
  · next he =>
    have h := abs_roundDiv_sub_le (n := num) (d := den * 2 ^ e.natAbs) (by positivity)
    push_cast at h
    rw [zpow_eq_pow 2 he, div_div]
    exact h

theorem scaled_congr {num den num' den' : Nat} (hden : 0 < den) (hden' : 0 < den') (h : num * den' = num' * den) :
    scaled num den = scaled num' den' := by
  funext e
  unfold scaled
  split
  · refine roundDiv_congr hden hden' ?_
    rw [Nat.mul_right_comm, h, Nat.mul_right_comm]
  · refine roundDiv_congr (Nat.mul_pos hden (Nat.pow_pos two_pos)) (Nat.mul_pos hden' (Nat.pow_pos two_pos)) ?_
    rw [← Nat.mul_assoc, h, Nat.mul_assoc]

section Estimates

variable {num den : Nat} (hden : 0 < den) {e : Int} {k : Nat}

include hden

theorem le_scaled (h : (k : ℚ) - 1 / 2 < num / den / 2 ^ e) : k ≤ scaled num den e := by
  have near := (abs_le.1 (abs_scaled_sub_le num hden e)).1
  have : (k : ℚ) < (scaled num den e + 1 : Nat) := by
    push_cast
    linarith
  exact Nat.lt_succ_iff.1 (by exact_mod_cast this)

theorem scaled_le (h : (num / den / 2 ^ e : ℚ) < k + 1 / 2) : scaled num den e ≤ k := by
  have near := (abs_le.1 (abs_scaled_sub_le num hden e)).2
  have : (scaled num den e : ℚ) < (k + 1 : Nat) := by
    push_cast
    linarith
  exact Nat.lt_succ_iff.1 (by exact_mod_cast this)

/-- A mantissa that is rounded up to `2 ^ 53` is `2 ^ 52` at the next exponent. -/
theorem scaled_succ_of_carry (h : scaled num den e = 2 ^ 53) (hsmall : (num / den / 2 ^ e : ℚ) < 2 ^ 53) :
    scaled num den (e + 1) = 2 ^ 52 := by
  have hlarge := (abs_le.1 (abs_scaled_sub_le num hden e)).2
  rw [h] at hlarge
  push_cast at hlarge
  have hhalf : (num / den / 2 ^ (e + 1) : ℚ) = num / den / 2 ^ e / 2 := by
    rw [zpow_add_one₀ two_ne_zero, div_mul_eq_div_div]
  refine le_antisymm (scaled_le hden ?_) (le_scaled hden ?_)
  · rw [hhalf]
    push_cast
    linarith
  · rw [hhalf]
    push_cast
    linarith

end Estimates

/-! ## The exponent -/

/-- The least exponent at which the rounded mantissa has at most 53 digits. -/
structure Settles (scale : Int → Nat) (e : Int) : Prop where
  least : minExponent ≤ e
  fits : scale e < 2 ^ 53
  above : ∀ f, minExponent ≤ f → f < e → 2 ^ 53 ≤ scale f

theorem Settles.unique {scale : Int → Nat} {e f : Int} (he : Settles scale e) (hf : Settles scale f) : e = f := by
  rcases lt_trichotomy e f with h | h | h
  · exact absurd (hf.above e he.least h) (by have := he.fits; omega)
  · exact h
  · exact absurd (he.above f hf.least h) (by have := hf.fits; omega)

/-- The first guess of the exponent is right or one too small, as far as the size of the quotient goes. -/
theorem guess_bounds {num den : Nat} (hnum : 0 < num) (hden : 0 < den) :
    (2 : ℚ) ^ ((Nat.log2 num : Int) - Nat.log2 den - 53 + 52) < num / den ∧
      (num / den : ℚ) < 2 ^ ((Nat.log2 num : Int) - Nat.log2 den - 53 + 54) := by
  have hdq : (0 : ℚ) < den := by exact_mod_cast hden
  have n1 : (2 : ℚ) ^ Nat.log2 num ≤ num := by exact_mod_cast Nat.log2_self_le hnum.ne'
  have n2 : (num : ℚ) < 2 ^ (Nat.log2 num + 1) := by exact_mod_cast Nat.lt_log2_self
  have d1 : (2 : ℚ) ^ Nat.log2 den ≤ den := by exact_mod_cast Nat.log2_self_le hden.ne'
  have d2 : (den : ℚ) < 2 ^ (Nat.log2 den + 1) := by exact_mod_cast Nat.lt_log2_self
  constructor
  · rw [lt_div_iff₀ hdq]
    calc (2 : ℚ) ^ ((Nat.log2 num : Int) - Nat.log2 den - 53 + 52) * den
        < 2 ^ ((Nat.log2 num : Int) - Nat.log2 den - 53 + 52) * 2 ^ (Nat.log2 den + 1) := by gcongr
      _ = 2 ^ Nat.log2 num := by
        rw [← zpow_natCast, ← zpow_natCast, ← zpow_add₀ two_ne_zero]
        congr 1
        push_cast
        ring
      _ ≤ num := n1
  · rw [div_lt_iff₀ hdq]
    calc (num : ℚ) < 2 ^ (Nat.log2 num + 1) := n2
      _ = 2 ^ ((Nat.log2 num : Int) - Nat.log2 den - 53 + 54) * 2 ^ Nat.log2 den := by
        rw [← zpow_natCast, ← zpow_natCast, ← zpow_add₀ two_ne_zero]
        congr 1
        push_cast
        ring
      _ ≤ _ := by gcongr

theorem pow_sub_le_div {q : ℚ} {a e : Int} {k : Nat} (h : 2 ^ a < q) (hk : e + k ≤ a) : (2 : ℚ) ^ k < q / 2 ^ e := by
  rw [lt_div_iff₀ (by positivity), ← zpow_natCast, ← zpow_add₀ two_ne_zero]
  refine lt_of_le_of_lt ?_ h
  exact zpow_le_zpow_right₀ one_le_two (by omega)

theorem div_lt_pow {q : ℚ} {a e : Int} {k : Nat} (h : q < 2 ^ a) (hk : a ≤ e + k) : q / 2 ^ e < 2 ^ k := by
  rw [div_lt_iff₀ (by positivity), ← zpow_natCast, ← zpow_add₀ two_ne_zero]
  refine lt_of_lt_of_le h ?_
  exact zpow_le_zpow_right₀ one_le_two (by omega)

/-- The number is rounded at the exponent where it settles. -/
theorem exists_settles {num den : Nat} (hnum : num ≠ 0) (hden : 0 < den) : ∃ e, Settles (scaled num den) e ∧
    ∀ negative, ofRatio negative num den =
      if maxExponent < e then infinite negative else finite negative (scaled num den e) e := by
  obtain ⟨lower, upper⟩ := guess_bounds (Nat.pos_of_ne_zero hnum) hden
  have unfolded : ∀ negative, ofRatio negative num den =
      (let e := max ((Nat.log2 num : Int) - Nat.log2 den - 53) minExponent
      let e := if scaled num den e < 2 ^ 53 then e else e + 1
      if scaled num den e = 2 ^ 53 then
        if maxExponent < e + 1 then infinite negative else finite negative (2 ^ 52) (e + 1)
      else if maxExponent < e then infinite negative else finite negative (scaled num den e) e) := by
    intro negative
    rw [ofRatio, if_neg hnum]
    dsimp only [Nat.pow_eq]
    split <;> split <;> rfl
  simp only [unfolded]
  generalize (Nat.log2 num : Int) - Nat.log2 den - 53 = guess at *
  generalize hstart : max guess minExponent = start
  have below : ∀ f, minExponent ≤ f → f < start → 2 ^ 53 ≤ scaled num den f := by
    intro f hmin hf
    have : (2 : ℚ) ^ 53 < num / den / 2 ^ f := pow_sub_le_div lower (by push_cast; omega)
    exact le_scaled hden (by push_cast; linarith)
  by_cases hfits : scaled num den start < 2 ^ 53
  · refine ⟨start, ⟨by omega, hfits, below⟩, fun negative => ?_⟩
    simp only [hfits, if_true, hfits.ne, if_false]
  · have hsmall : (num / den / 2 ^ (start + 1) : ℚ) < 2 ^ 53 := div_lt_pow upper (by push_cast; omega)
    have hle : scaled num den (start + 1) ≤ 2 ^ 53 := scaled_le hden (by push_cast; linarith)
    have below' : ∀ f, minExponent ≤ f → f < start + 1 → 2 ^ 53 ≤ scaled num den f := by
      intro f hmin hf
      rcases Int.lt_or_le f start with h | h
      · exact below f hmin h
      · obtain rfl : f = start := by omega
        exact Nat.le_of_not_lt hfits
    by_cases hcarry : scaled num den (start + 1) = 2 ^ 53
    · -- the mantissa has grown by a digit, and it is a power of two
      have hnext := scaled_succ_of_carry hden hcarry hsmall
      refine ⟨start + 1 + 1, ⟨by omega, by rw [hnext]; norm_num, ?_⟩, fun negative => ?_⟩
      · intro f hmin hf
        rcases Int.lt_or_le f (start + 1) with h | h
        · exact below' f hmin h
        · obtain rfl : f = start + 1 := by omega
          exact hcarry.ge
      · simp only [hfits, if_false, hcarry, if_true, hnext]
    · refine ⟨start + 1, ⟨by omega, by omega, below'⟩, fun negative => ?_⟩
      simp only [hfits, if_false, hcarry]

theorem ofRatio_of_settles {num den : Nat} (hnum : num ≠ 0) (hden : 0 < den) {e : Int}
    (h : Settles (scaled num den) e) (hmax : e ≤ maxExponent) (negative : Bool) :
    ofRatio negative num den = finite negative (scaled num den e) e := by
  obtain ⟨f, hf, heq⟩ := exists_settles hnum hden
  obtain rfl := h.unique hf
  rw [heq negative, if_neg (by omega)]

/-- Equal quotients have the same nearest number. -/
theorem ofRatio_congr {num den num' den' : Nat} (hnum : num ≠ 0) (hden : 0 < den) (hnum' : num' ≠ 0)
    (hden' : 0 < den') (h : num * den' = num' * den) (negative : Bool) :
    ofRatio negative num den = ofRatio negative num' den' := by
  obtain ⟨e, he, heq⟩ := exists_settles hnum hden
  obtain ⟨f, hf, hfeq⟩ := exists_settles hnum' hden'
  have same := scaled_congr hden hden' h
  rw [same] at he
  obtain rfl := he.unique hf
  rw [heq, hfeq, same]

theorem ofRatio_sign {num den : Nat} (hnum : num ≠ 0) (hden : 0 < den) {s : Bool} {m : Nat} {e : Int}
    (h : ofRatio s num den = finite s m e) (t : Bool) : ofRatio t num den = finite t m e := by
  obtain ⟨f, -, heq⟩ := exists_settles hnum hden
  rw [heq] at h ⊢
  split at h
  · cases h
  · next hmax =>
    obtain ⟨-, rfl, rfl⟩ := finite.inj h
    rw [if_neg hmax]

/-- A quotient whose nearest number is neither zero nor infinite is neither too small nor too large. -/
theorem bounds_of_ofRatio {num den : Nat} (hnum : num ≠ 0) (hden : 0 < den) {s : Bool} {m : Nat} {e : Int}
    (h : ofRatio s num den = finite s m e) (hm : m ≠ 0) :
    (2 : ℚ) ^ (-1080 : Int) < num / den ∧ (num / den : ℚ) < 2 ^ (1030 : Int) := by
  obtain ⟨f, hf, heq⟩ := exists_settles hnum hden
  rw [heq] at h
  split at h
  · cases h
  · next hmax =>
    obtain ⟨-, rfl, rfl⟩ := finite.inj h
    obtain ⟨lower, upper⟩ := abs_le.1 (abs_scaled_sub_le num hden f)
    have hpow : (0 : ℚ) < 2 ^ f := by positivity
    have one : (1 : ℚ) ≤ scaled num den f := by exact_mod_cast Nat.pos_of_ne_zero hm
    have fits : (scaled num den f : ℚ) + 1 ≤ 2 ^ 53 := by exact_mod_cast hf.fits
    have hleast := hf.least
    simp only [minExponent, maxExponent] at hleast hmax
    have half : (1 / 2 : ℚ) ≤ num / den / 2 ^ f := by linarith
    constructor
    · calc (2 : ℚ) ^ (-1080 : Int) < 2 ^ (f - 1) := zpow_lt_zpow_right₀ one_lt_two (by omega)
        _ = 1 / 2 * 2 ^ f := by rw [zpow_sub_one₀ two_ne_zero]; ring
        _ ≤ num / den / 2 ^ f * 2 ^ f := mul_le_mul_of_nonneg_right half hpow.le
        _ = num / den := div_mul_cancel₀ _ hpow.ne'
    · calc (num / den : ℚ) = num / den / 2 ^ f * 2 ^ f := (div_mul_cancel₀ _ hpow.ne').symm
        _ < 2 ^ 53 * 2 ^ f := by gcongr; linarith
        _ = 2 ^ (f + 53) := by rw [zpow_add₀ two_ne_zero, mul_comm]; norm_cast
        _ ≤ 2 ^ (1030 : Int) := zpow_le_zpow_right₀ one_le_two (by omega)

/-! ## Numbers in normal form -/

/-- The mantissa has 53 digits, or at most so many at the least exponent. -/
structure NormalForm (m : Nat) (e : Int) : Prop where
  least : minExponent ≤ e
  greatest : e ≤ maxExponent
  fits : m < 2 ^ 53
  full : e = minExponent ∨ 2 ^ 52 ≤ m

/-- Where a quotient settles, its mantissa is in normal form. -/
theorem normalForm_of_settles {num den : Nat} (hden : 0 < den) {e : Int} (h : Settles (scaled num den) e)
    (hmax : e ≤ maxExponent) : NormalForm (scaled num den e) e := by
  refine ⟨h.least, hmax, h.fits, ?_⟩
  rcases h.least.eq_or_lt with heq | hlt
  · exact .inl heq.symm
  · right
    have large : (2 : ℚ) ^ 53 ≤ scaled num den (e - 1) := by
      exact_mod_cast h.above (e - 1) (by omega) (by omega)
    have near := (abs_le.1 (abs_scaled_sub_le num hden (e - 1))).2
    have double : (num / den / 2 ^ (e - 1) : ℚ) = num / den / 2 ^ e * 2 := by
      rw [zpow_sub_one₀ two_ne_zero, div_mul_eq_div_div, div_inv_eq_mul]
    refine le_scaled hden ?_
    push_cast
    linarith

/-- A finite number in normal form. -/
def Representable : Binary64 → Prop
  | finite _ m e => NormalForm m e
  | _ => False

/-- The nearest number is in normal form, if it is finite. -/
theorem representable_ofRatio {num den : Nat} (hnum : num ≠ 0) (hden : 0 < den) {s : Bool}
    (h : (ofRatio s num den).isFinite = true) : (ofRatio s num den).Representable := by
  obtain ⟨e, he, heq⟩ := exists_settles hnum hden
  rw [heq] at h ⊢
  split at h
  · cases h
  · next hmax =>
    rw [if_neg hmax]
    exact normalForm_of_settles hden he (by omega)

/-- Every decimal is read as a number in normal form, if as a finite one. -/
theorem representable_ofDecimal {s : Bool} {k : Nat} {a : Int} (h : (ofDecimal s k a).isFinite = true) :
    (ofDecimal s k a).Representable := by
  have zero : NormalForm 0 minExponent := ⟨Int.le_refl _, by decide, by decide, .inl rfl⟩
  revert h
  unfold ofDecimal
  split
  · exact fun _ => zero
  · next hk =>
    split
    · intro h
      cases h
    · split
      · split
        · exact fun _ => zero
        · exact representable_ofRatio hk (Nat.pow_pos (by decide))
      · exact representable_ofRatio (Nat.mul_ne_zero hk (Nat.pow_pos (by decide)).ne') Nat.one_pos

/-- A quotient that is closer to a number in normal form than a part in `2 ^ 54` gives this number. -/
theorem ofRatio_of_near {m : Nat} {e : Int} (hnormal : NormalForm m e) (hm : 0 < m) {num den : Nat} (hden : 0 < den)
    (near : |(num / den : ℚ) - m * 2 ^ e| < m * 2 ^ e / 2 ^ 54) (negative : Bool) :
    ofRatio negative num den = finite negative m e := by
  have hmq : (1 : ℚ) ≤ m := by exact_mod_cast hm
  have hfits : (m : ℚ) < 2 ^ 53 := by exact_mod_cast hnormal.fits
  have hpow : (0 : ℚ) < 2 ^ e := by positivity
  obtain ⟨lower, upper⟩ := abs_lt.1 near
  have low : (m : ℚ) - m / 2 ^ 54 < num / den / 2 ^ e := by
    rw [lt_div_iff₀ hpow]
    linarith [show ((m : ℚ) - m / 2 ^ 54) * 2 ^ e = m * 2 ^ e - m * 2 ^ e / 2 ^ 54 by ring]
  have high : (num / den / 2 ^ e : ℚ) < m + m / 2 ^ 54 := by
    rw [div_lt_iff₀ hpow]
    linarith [show ((m : ℚ) + m / 2 ^ 54) * 2 ^ e = m * 2 ^ e + m * 2 ^ e / 2 ^ 54 by ring]
  have hround : scaled num den e = m := by
    refine le_antisymm (scaled_le hden ?_) (le_scaled hden ?_) <;> linarith
  have settles : Settles (scaled num den) e := by
    refine ⟨hnormal.least, hround ▸ hnormal.fits, fun f hmin hf => ?_⟩
    have hfull : (2 : ℚ) ^ 52 ≤ m := by
      rcases hnormal.full with h | h
      · omega
      · exact_mod_cast h
    refine le_scaled hden ?_
    have grow : (num / den / 2 ^ e : ℚ) * 2 ≤ num / den / 2 ^ f := by
      have hf' : (2 : ℚ) ^ f * 2 ≤ 2 ^ e := by
        rw [← zpow_add_one₀ two_ne_zero]
        exact zpow_le_zpow_right₀ one_le_two (by omega)
      rw [div_mul_eq_mul_div, div_le_div_iff₀ hpow (by positivity)]
      calc (num / den : ℚ) * 2 * 2 ^ f = num / den * (2 ^ f * 2) := by ring
        _ ≤ num / den * 2 ^ e := by gcongr
    push_cast
    linarith
  have hnum : num ≠ 0 := by
    rintro rfl
    have : (m : ℚ) / 2 ^ 54 < m := by linarith
    simp only [Nat.cast_zero, zero_div] at low
    linarith
  rw [ofRatio_of_settles hnum hden settles hnormal.greatest, hround]

end AwaitLint.Binary64
