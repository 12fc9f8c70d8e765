import AwaitLint.Text.Ranges
import AwaitLint.Ticket
import Mathlib.Data.List.Basic

/-! # Numbers in hexadecimal digits

The digits give the number back, up to those that are cut off. So bytes are written without loss, and
identifiers differ if their numbers do.
-/

namespace AwaitLint

namespace Text

theorem hexDigit?_digitChar : ∀ d < 16, hexDigit? d.digitChar = some d := by decide

theorem hexValue_append_digit {d : Nat} (hd : d < 16) (cs : List Char) :
    hexValue (cs ++ [d.digitChar]) = hexValue cs * 16 + d := by
  simp only [hexValue, List.foldl_append, List.foldl_cons, List.foldl_nil, hexDigit?_digitChar d hd]

theorem hexValue_zeros_append (k : Nat) (cs : List Char) :
    hexValue (List.replicate k '0' ++ cs) = hexValue cs := by
  induction k with
  | zero => rfl
  | succ k ih => exact ih

theorem toDigits_spec (n : Nat) : hexValue (Nat.toDigits 16 n) = n ∧
    ∀ c ∈ Nat.toDigits 16 n, (hexDigit? c).isSome = true := by
  induction n using Nat.strongRecOn with
  | ind n ih =>
    by_cases h : n < 16
    · rw [Nat.toDigits_of_lt_base h]
      exact ⟨by simpa [hexValue] using hexValue_append_digit h [], by simp [hexDigit?_digitChar n h]⟩
    · have hd : n % 16 < 16 := Nat.mod_lt _ (by decide)
      obtain ⟨hvalue, hdigits⟩ := ih (n / 16) (by omega)
      rw [Nat.toDigits_of_base_le (by decide) (by omega), hexValue_append_digit hd, hvalue]
      refine ⟨by omega, fun c hc => ?_⟩
      rcases List.mem_append.1 hc with hc | hc
      · exact hdigits c hc
      · rw [List.mem_singleton.1 hc, hexDigit?_digitChar _ hd]
        rfl

theorem toList_hexText (width n : Nat) : (hexText width n).toList =
    List.replicate (width - (Nat.toDigits 16 (n % Nat.pow 16 width)).length) '0' ++
      Nat.toDigits 16 (n % Nat.pow 16 width) :=
  String.toList_ofList

theorem hexValue_hexText (width n : Nat) : hexValue (hexText width n).toList = n % Nat.pow 16 width := by
  rw [toList_hexText, hexValue_zeros_append, (toDigits_spec _).1]

theorem hexDigit?_of_mem_hexText {width n : Nat} {c : Char} (h : c ∈ (hexText width n).toList) :
    (hexDigit? c).isSome = true := by
  rw [toList_hexText] at h
  rcases List.mem_append.1 h with h | h
  · rw [List.eq_of_mem_replicate h]
    rfl
  · exact (toDigits_spec _).2 c h

theorem length_hexText {width : Nat} (hw : 0 < width) (n : Nat) :
    (hexText width n).toList.length = width := by
  have hle : (Nat.toDigits 16 (n % Nat.pow 16 width)).length ≤ width :=
    (Nat.length_toDigits_le_iff (by decide) hw).2 (Nat.mod_lt _ (Nat.pow_pos (by decide)))
  rw [toList_hexText, List.length_append, List.length_replicate]
  omega

theorem hexText_inj {width n m : Nat} (hn : n < Nat.pow 16 width) (hm : m < Nat.pow 16 width)
    (h : (hexText width n).toList = (hexText width m).toList) : n = m := by
  rw [← Nat.mod_eq_of_lt hn, ← Nat.mod_eq_of_lt hm, ← hexValue_hexText, ← hexValue_hexText, h]

theorem hexOfBytes_inj {xs ys : List Nat} (hx : ∀ b ∈ xs, b < 256) (hy : ∀ b ∈ ys, b < 256)
    (h : hexOfBytes xs = hexOfBytes ys) : xs = ys := by
  have toList (bs : List Nat) : (hexOfBytes bs).toList = bs.flatMap fun b => (hexText 2 b).toList := by
    rw [hexOfBytes, String.toList_join, List.flatMap_map]
  have nonempty (b : Nat) (bs : List Char) : (hexText 2 b).toList ++ bs ≠ [] := by
    intro he
    have hlen := length_hexText (by decide : 0 < 2) b
    rw [(List.append_eq_nil_iff.1 he).1] at hlen
    cases hlen
  replace h := congrArg String.toList h
  rw [toList, toList] at h
  induction xs generalizing ys with
  | nil =>
    cases ys with
    | nil => rfl
    | cons y ys =>
      rw [List.flatMap_cons] at h
      exact absurd h.symm (nonempty y _)
  | cons x xs ih =>
    cases ys with
    | nil =>
      rw [List.flatMap_cons] at h
      exact absurd h (nonempty x _)
    | cons y ys =>
      rw [List.flatMap_cons, List.flatMap_cons] at h
      obtain ⟨hxy, hrest⟩ := List.append_inj h
        ((length_hexText (by decide) x).trans (length_hexText (by decide) y).symm)
      rw [hexText_inj (hx x List.mem_cons_self) (hy y List.mem_cons_self) hxy,
        ih (fun b hb => hx b (List.mem_cons_of_mem _ hb)) (fun b hb => hy b (List.mem_cons_of_mem _ hb))
          hrest]

end Text

/-- Identifiers of one kind differ if their numbers do, as long as all digits are written. -/
theorem Tickets.label_inj {mark : String} {width n m : Nat} (hn : n < Nat.pow 16 width)
    (hm : m < Nat.pow 16 width) (h : label mark width n = label mark width m) : n = m :=
  Text.hexText_inj hn hm (congrArg String.toList ((String.append_right_inj _).1 h))

end AwaitLint
