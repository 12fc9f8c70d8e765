import AwaitLint.Proofs.JsonScalars
import AwaitLint.Proofs.ShortestDecimals

/-! # Numbers read back from their texts

However the digits of a decimal are laid out, positionally or with an exponent, the text is read as this decimal. With
the shortest decimal it follows that every number in normal form is read back from its text.
-/

namespace AwaitLint

namespace Json

/-! ## The parts of a number -/

theorem digitValue_append (xs ys : List Char) :
    digitValue (xs ++ ys) = digitValue xs * 10 ^ ys.length + digitValue ys := by
  have run : ∀ (cs : List Char) (n : Nat), cs.foldl (fun n c => n * 10 + (c.toNat - 48)) n =
      n * 10 ^ cs.length + digitValue cs := by
    intro cs
    induction cs with
    | nil => simp [digitValue]
    | cons c cs ih =>
      intro n
      have : digitValue (c :: cs) = (0 * 10 + (c.toNat - 48)) * 10 ^ cs.length + digitValue cs := ih _
      rw [List.foldl_cons, ih, this, List.length_cons]
      ring
  rw [digitValue, List.foldl_append, run]
  rfl

theorem digitValue_replicate_zero (k : Nat) : digitValue (List.replicate k '0') = 0 := by
  induction k with
  | zero => rfl
  | succ k ih =>
    rw [List.replicate_succ', digitValue_append, ih]
    rfl

/-- Digits that may stand before a point: a zero in front stands alone. -/
structure Whole (cs : List Char) : Prop where
  nonempty : cs ≠ []
  digits : ∀ c ∈ cs, c.isDigit = true
  alone : ∀ ds, cs = '0' :: ds → ds = []

/-- The digits after a point, with the point, if there are any. -/
def pointed (fraction : List Char) : List Char := if fraction = [] then [] else '.' :: fraction

theorem Whole.wholeDigits_append {cs : List Char} (h : Whole cs) {rest : List Char}
    (hr : ∀ c ∈ rest.head?, c.isDigit = false) : wholeDigits (cs ++ rest) = cs := by
  obtain ⟨d, ds, rfl⟩ := List.exists_cons_of_ne_nil h.nonempty
  unfold wholeDigits
  split
  · next heq =>
    obtain rfl := (List.cons.inj heq).1
    rw [h.alone ds rfl]
  · exact takeWhile_isDigit h.digits hr

/-- The text `after` goes on neither with a digit nor with a point. -/
def EndsDigits (after : List Char) : Prop := ∀ c ∈ after.head?, c.isDigit = false ∧ c ≠ '.'

section Parts

variable {whole fraction after : List Char} (hw : Whole whole) (hf : ∀ c ∈ fraction, c.isDigit = true)
  (ha : EndsDigits after)

include hf ha in
theorem fractionDigits_pointed : fractionDigits (pointed fraction ++ after) = fraction := by
  unfold pointed
  split
  · next h =>
    subst h
    cases after with
    | nil => rfl
    | cons c after =>
      have := (ha c rfl).2
      unfold fractionDigits
      split
      · next heq => exact absurd (List.cons.inj heq).1 this
      · rfl
  · exact takeWhile_isDigit hf fun c hc => (ha c hc).1

theorem drop_pointed :
    (if fraction.isEmpty then pointed fraction ++ after else (pointed fraction ++ after).drop (fraction.length + 1)) =
      after := by
  cases fraction with
  | nil => simp [pointed]
  | cons c cs => simp [pointed]

include ha in
theorem head?_pointed : ∀ c ∈ (pointed fraction ++ after).head?, c.isDigit = false := by
  intro c hc
  unfold pointed at hc
  split at hc
  · exact (ha c hc).1
  · obtain rfl : '.' = c := by simpa using hc
    rfl

include hw hf ha in
/-- A number is read by its parts: sign, whole digits, fraction and exponent. -/
theorem readNumber?_parts {n : Nat} {e : Int} (negative : Bool)
    (h : exponent? after = some (n, e) ∨ exponent? after = none ∧ n = 0 ∧ e = 0 ∧ fraction ≠ []) (pos : Nat) :
    readNumber? ⟨(if negative then ['-'] else []) ++ (whole ++ (pointed fraction ++ after)), pos⟩ =
      some (.float (.ofDecimal negative (digitValue (whole ++ fraction)) (e - fraction.length)),
        ⟨after.drop n, pos + (whole ++ pointed fraction).length + n + if negative then 1 else 0⟩) := by
  obtain ⟨d, ds, rfl⟩ := List.exists_cons_of_ne_nil hw.nonempty
  have minus : d ≠ '-' := by
    rintro rfl
    exact absurd (hw.digits '-' List.mem_cons_self) (by decide)
  have start : (if negative then ((if negative then ['-'] else []) ++ (d :: ds ++ (pointed fraction ++ after))).drop 1
      else (if negative then ['-'] else []) ++ (d :: ds ++ (pointed fraction ++ after))) =
        d :: ds ++ (pointed fraction ++ after) := by
    cases negative <;> rfl
  have sign : (((if negative then ['-'] else []) ++ (d :: ds ++ (pointed fraction ++ after))).head? == some '-') =
      negative := by
    cases negative <;> simp [minus]
  have used : (if fraction.isEmpty then (d :: ds).length + (if negative then 1 else 0)
      else (d :: ds).length + (if negative then 1 else 0) + fraction.length + 1) =
        ((if negative then ['-'] else []) ++ (d :: ds ++ pointed fraction)).length := by
    cases negative <;> cases fraction <;> simp [pointed] <;> omega
  have left : ∀ k, Input.drop ⟨(if negative then ['-'] else []) ++ (d :: ds ++ (pointed fraction ++ after)), pos⟩
      (((if negative then ['-'] else []) ++ (d :: ds ++ pointed fraction)).length + k) =
        ⟨after.drop k, pos + (d :: ds ++ pointed fraction).length + k + if negative then 1 else 0⟩ := by
    intro k
    have split : (if negative then ['-'] else []) ++ (d :: ds ++ (pointed fraction ++ after)) =
        ((if negative then ['-'] else []) ++ (d :: ds ++ pointed fraction)) ++ after := by
      simp
    rw [Input.drop_mk, split, List.drop_length_add_append]
    congr 1
    cases negative <;> simp <;> omega
  unfold readNumber?
  simp only [sign, start, hw.wholeDigits_append (head?_pointed ha), List.drop_left, fractionDigits_pointed hf ha,
    drop_pointed, used, List.isEmpty_cons, Bool.false_eq_true, if_false]
  rcases h with h | ⟨h, rfl, rfl, hne⟩
  · simp only [h, left]
  · have : fraction.isEmpty = false := by simpa using hne
    have left := left 0
    rw [Nat.add_zero] at left
    simp only [h, this, Bool.false_eq_true, if_false, left, zero_sub]

end Parts

/-- The text is read as a decimal, with or without a sign in front. -/
def ReadsAs (text : List Char) (k : Nat) (a : Int) : Prop :=
  ∀ (negative : Bool) (rest : List Char) (pos : Nat), Stops rest →
    readNumber? ⟨(if negative then ['-'] else []) ++ (text ++ rest), pos⟩ =
      some (.float (.ofDecimal negative k a), ⟨rest, pos + text.length + if negative then 1 else 0⟩)

section Texts

variable {whole fraction : List Char} (hw : Whole whole) (hf : ∀ c ∈ fraction, c.isDigit = true)

include hw hf

theorem readsAs_point (hne : fraction ≠ []) :
    ReadsAs (whole ++ '.' :: fraction) (digitValue (whole ++ fraction)) (-fraction.length) := by
  intro negative rest pos hs
  have ends : EndsDigits rest := fun c hc => ⟨(hs c hc).1, (hs c hc).2.1⟩
  have := readNumber?_parts hw hf ends negative (.inr ⟨hs.exponent?, rfl, rfl, hne⟩) pos
  simpa [pointed, hne] using this

theorem readsAs_exponent {tail : List Char} {e : Int} (ht : tail.head? = some 'e')
    (he : ∀ rest, Stops rest → exponent? (tail ++ rest) = some (tail.length, e)) :
    ReadsAs (whole ++ (pointed fraction ++ tail)) (digitValue (whole ++ fraction)) (e - fraction.length) := by
  intro negative rest pos hs
  have ends : EndsDigits (tail ++ rest) := by
    obtain ⟨tail, rfl⟩ := List.head?_eq_some_iff.1 ht
    intro c hc
    obtain rfl : 'e' = c := by simpa using hc
    decide
  have := readNumber?_parts hw hf ends negative (.inl (he rest hs)) pos
  rw [List.drop_left] at this
  simpa [Nat.add_assoc] using this

end Texts

end Json

namespace Binary64

open Json (digitValue Stops ReadsAs Whole pointed)

theorem toList_toString_nat (n : Nat) : (toString n).toList = Nat.toDigits 10 n := by
  simp

/-- The exponent as a layout writes it. -/
def Layout.exponentText (l : Layout) (e : Int) : List Char :=
  'e' :: ((if e < 0 then ['-'] else if l.signed then ['+'] else []) ++ (pad l.width (toString e.natAbs)).toList)

theorem Layout.toList_exponent (l : Layout) (mantissa : String) (e : Int) :
    (mantissa ++ "e" ++ (if e < 0 then "-" else if l.signed then "+" else "") ++
      pad l.width (toString e.natAbs)).toList = mantissa.toList ++ l.exponentText e := by
  unfold exponentText
  split
  · simp
  · split <;> simp

theorem Layout.exponent?_exponentText (l : Layout) (e : Int) {rest : List Char} (hs : Stops rest) :
    Json.exponent? (l.exponentText e ++ rest) = some ((l.exponentText e).length, e) := by
  have padded : ∃ k, (pad l.width (toString e.natAbs)).toList =
      List.replicate k '0' ++ Nat.toDigits 10 e.natAbs :=
    ⟨_, by rw [pad, String.toList_append, String.toList_ofList, toList_toString_nat]⟩
  obtain ⟨k, hk⟩ := padded
  have digits : ∀ c ∈ List.replicate k '0' ++ Nat.toDigits 10 e.natAbs, c.isDigit = true := by
    intro c hc
    rcases List.mem_append.1 hc with h | h
    · rw [List.eq_of_mem_replicate h]
      rfl
    · exact Json.isDigit_toDigits h
  have value : digitValue (List.replicate k '0' ++ Nat.toDigits 10 e.natAbs) = e.natAbs := by
    rw [Json.digitValue_append, Json.digitValue_replicate_zero, Json.digitValue_toDigits]
    simp
  have nonempty : List.replicate k '0' ++ Nat.toDigits 10 e.natAbs ≠ [] := by
    simp [Nat.toDigits_ne_nil]
  rw [exponentText, hk]
  generalize List.replicate k '0' ++ Nat.toDigits 10 e.natAbs = ds at *
  have taken := Json.takeWhile_isDigit digits hs.head
  have some : ds.isEmpty = false := by simpa using nonempty
  have length : 1 + 1 + ds.length = ds.length + 1 + 1 := by omega
  by_cases he : e < 0
  · have negative : -1 * (e.natAbs : Int) = e := by omega
    simp only [he, if_true, List.cons_append, List.nil_append, Json.exponent?, true_or, taken, some,
      Bool.false_eq_true, if_false, value, List.length_cons, negative, length]
  · have positive : 1 * (e.natAbs : Int) = e := by omega
    by_cases signed : l.signed = true
    · simp only [he, signed, if_false, if_true, List.cons_append, List.nil_append, Json.exponent?, true_or, taken,
        some, Bool.false_eq_true, value, List.length_cons, positive, length]
    · -- without a sign a digit comes first
      obtain ⟨d, ds, rfl⟩ := List.exists_cons_of_ne_nil nonempty
      have minus : d ≠ '-' := by
        rintro rfl
        exact absurd (digits '-' List.mem_cons_self) (by decide)
      have plus : d ≠ '+' := by
        rintro rfl
        exact absurd (digits '+' List.mem_cons_self) (by decide)
      rw [List.cons_append] at taken
      simp [he, signed, Json.exponent?, minus, plus, taken, value, Nat.add_comm 1]
      omega

theorem whole_of_toDigits {n : Nat} (hn : n ≠ 0) {cs rest : List Char} (hcs : cs ≠ [])
    (h : Nat.toDigits 10 n = cs ++ rest) (zeros : Nat) : Whole (cs ++ List.replicate zeros '0') := by
  obtain ⟨c, cs, rfl⟩ := List.exists_cons_of_ne_nil hcs
  have notZero : c ≠ '0' := by
    rintro rfl
    have alone : cs ++ rest = [] := Json.toDigits_eq_zero_cons h
    have value := Json.digitValue_toDigits n
    rw [h, List.cons_append, alone] at value
    exact hn value.symm
  refine ⟨by simp, fun d hd => ?_, fun ds heq => absurd (List.cons.inj heq).1 notZero⟩
  rcases List.mem_append.1 hd with hd | hd
  · exact Json.isDigit_toDigits (h ▸ List.mem_append_left rest hd)
  · rw [List.eq_of_mem_replicate hd]
    rfl

section Digits

variable {n : Nat} (hn : n ≠ 0)

/-- A number below one: zeros come after the point. -/
theorem readsAs_zeros (n zeros : Nat) : ReadsAs ('0' :: '.' :: (List.replicate zeros '0' ++ Nat.toDigits 10 n)) n
    (-(zeros + (Nat.toDigits 10 n).length : Nat)) := by
  have whole : Whole ['0'] := ⟨by simp, by simp, fun ds heq => (List.cons.inj heq).2.symm⟩
  have digits : ∀ c ∈ List.replicate zeros '0' ++ Nat.toDigits 10 n, c.isDigit = true := by
    intro c hc
    rcases List.mem_append.1 hc with h | h
    · rw [List.eq_of_mem_replicate h]
      rfl
    · exact Json.isDigit_toDigits h
  have read := Json.readsAs_point whole digits (by simp [Nat.toDigits_ne_nil])
  have value : digitValue (['0'] ++ (List.replicate zeros '0' ++ Nat.toDigits 10 n)) = n := by
    rw [Json.digitValue_append, Json.digitValue_append, Json.digitValue_replicate_zero, Json.digitValue_toDigits]
    simp [digitValue]
  rw [value, List.length_append, List.length_replicate] at read
  exact read

include hn

/-- A whole number: zeros come before the point. -/
theorem readsAs_whole (zeros : Nat) : ReadsAs (Nat.toDigits 10 n ++ List.replicate zeros '0' ++ ['.', '0'])
    (n * 10 ^ (zeros + 1)) (-1) := by
  have whole := whole_of_toDigits hn Nat.toDigits_ne_nil (List.append_nil _).symm zeros
  have zero : ∀ c ∈ ['0'], c.isDigit = true := by simp
  have read := Json.readsAs_point whole zero (by simp)
  have value : digitValue (Nat.toDigits 10 n ++ List.replicate zeros '0' ++ ['0']) = n * 10 ^ (zeros + 1) := by
    rw [Json.digitValue_append, Json.digitValue_append, Json.digitValue_replicate_zero, Json.digitValue_toDigits,
      List.length_replicate]
    simp [digitValue, Nat.pow_succ, Nat.mul_assoc]
  rw [value] at read
  exact read

theorem readsAs_split {before after : List Char} (h : Nat.toDigits 10 n = before ++ after) (hb : before ≠ [])
    (ha : after ≠ []) : ReadsAs (before ++ '.' :: after) n (-after.length) := by
  have whole := whole_of_toDigits hn hb h 0
  rw [List.replicate_zero, List.append_nil] at whole
  have read := Json.readsAs_point whole (fun c hc => Json.isDigit_toDigits (h ▸ List.mem_append_right _ hc)) ha
  rwa [← h, Json.digitValue_toDigits] at read

theorem readsAs_scientific (l : Layout) {c : Char} {cs : List Char} (h : Nat.toDigits 10 n = c :: cs) (e : Int) :
    ReadsAs (c :: (pointed cs ++ l.exponentText e)) n (e - cs.length) := by
  have whole : Whole ([c] ++ List.replicate 0 '0') := whole_of_toDigits hn (by simp) h 0
  have read := Json.readsAs_exponent whole (fun d hd => Json.isDigit_toDigits (h ▸ List.mem_cons_of_mem c hd)) rfl
    fun rest hs => l.exponent?_exponentText e hs
  have value : digitValue ([c] ++ cs) = n := by
    rw [List.singleton_append, ← h, Json.digitValue_toDigits]
  rw [List.replicate_zero, List.append_nil, value] at read
  exact read

end Digits

/-- Every layout of a decimal is read as a decimal of the same value. -/
theorem Layout.readsAs_digits (l : Layout) (d : Decimal) (hd : d.digits ≠ 0) : ∃ (k : Nat) (a : Int), k ≠ 0 ∧
    (k * 10 ^ a : ℚ) = d.digits * 10 ^ d.exponent ∧ ReadsAs (l.digits d).toList k a := by
  have hlength : (toString d.digits).length = (Nat.toDigits 10 d.digits).length := by
    rw [← String.length_toList, toList_toString_nat]
  generalize hcount : (Nat.toDigits 10 d.digits).length = count at hlength
  unfold Layout.digits
  dsimp only
  rw [hlength, toList_toString_nat]
  split
  · split
    · next hpoint =>
      have read := readsAs_zeros d.digits (d.exponent + count).natAbs
      rw [hcount, show -(((d.exponent + count).natAbs + count : Nat) : Int) = d.exponent by omega] at read
      exact ⟨d.digits, d.exponent, hd, rfl, by simpa [toList_toString_nat] using read⟩
    · next hpoint =>
      split
      · next hlong =>
        have read := readsAs_whole hd ((d.exponent + count).toNat - count)
        refine ⟨d.digits * 10 ^ ((d.exponent + count).toNat - count + 1), -1, by positivity, ?_,
          by simpa [toList_toString_nat] using read⟩
        have zeros : d.exponent = ((d.exponent + count).toNat - count : Nat) := by omega
        push_cast
        rw [mul_assoc, ← zpow_natCast, ← zpow_add₀ (by norm_num)]
        congr 2
        push_cast
        omega
      · next hshort =>
        have read := readsAs_split hd (List.take_append_drop (d.exponent + count).toNat _).symm
          (List.ne_nil_of_length_pos (by rw [List.length_take]; omega))
          (List.ne_nil_of_length_pos (by rw [List.length_drop]; omega))
        have fraction : -((count - (d.exponent + count).toNat : Nat) : Int) = d.exponent := by omega
        rw [List.length_drop, hcount, fraction] at read
        exact ⟨d.digits, d.exponent, hd, rfl, by simpa using read⟩
  · obtain ⟨c, cs, hcs⟩ := List.exists_cons_of_ne_nil (Nat.toDigits_ne_nil (n := d.digits) (b := 10))
    have read := readsAs_scientific hd l hcs (d.exponent + count - 1)
    rw [hcs, List.length_cons] at hcount
    rw [show d.exponent + (count : Int) - 1 - cs.length = d.exponent by omega] at read
    refine ⟨d.digits, d.exponent, hd, rfl, ?_⟩
    rw [hcs, l.toList_exponent]
    cases cs with
    | nil => simpa [pointed] using read
    | cons c' cs => simpa [pointed] using read

/-- Every number in normal form is read back from its text. -/
theorem Representable.readsBack {x : Binary64} (h : x.Representable) : Json.ReadsBack x := by
  cases x with
  | infinite _ => exact h.elim
  | nan => exact h.elim
  | finite s m e =>
    intro rest pos hs
    have sign : (keptLayout.render (finite s m e)).toList = (if s then ['-'] else []) ++
        (if m = 0 then "0.0" else keptLayout.digits (shortest m e)).toList := by
      cases s <;> simp [Layout.render]
    have read : ∃ (k : Nat) (a : Int), ofDecimal s k a = finite s m e ∧
        ReadsAs (if m = 0 then "0.0" else keptLayout.digits (shortest m e)).toList k a := by
      rcases Nat.eq_zero_or_pos m with rfl | hm
      · have he : e = minExponent := by
          have := h.full
          omega
        subst he
        exact ⟨0, -1, rfl, readsAs_zeros 0 0⟩
      · obtain ⟨hd, hshort⟩ := ofDecimal_shortest h hm
        obtain ⟨k, a, hk, hvalue, hread⟩ := keptLayout.readsAs_digits (shortest m e) hd
        rw [if_neg hm.ne']
        exact ⟨k, a, ofDecimal_congr hd hk hvalue hm.ne' (hshort s) s, hread⟩
    obtain ⟨k, a, hvalue, hread⟩ := read
    rw [sign, List.append_assoc, hread s rest pos hs, hvalue, List.length_append]
    cases s
    · simp
    · simp
      omega

end Binary64

end AwaitLint
