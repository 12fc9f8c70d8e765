import AwaitLint.Json.Reader
import AwaitLint.Json.Writer
import AwaitLint.Proofs.Hexadecimal

/-! # Strings and numbers of JSON read back

A quoted string is read to its end and gives the string. An integer is read up to the first character
that cannot go on with a number.
-/

namespace AwaitLint.Json

/-! ## Strings -/

theorem hex4_eq {n : Nat} (h : n < 65536) : hex4 n = (Text.hexText 4 n).toList := by
  have h4 : n % Nat.pow 16 4 = n := Nat.mod_eq_of_lt h
  rw [Text.toList_hexText, h4]
  rfl

theorem length_hex4 {n : Nat} (h : n < 65536) : (hex4 n).length = 4 := by
  rw [hex4_eq h, Text.length_hexText (by decide)]

theorem unitOf?_hex4 {n : Nat} (h : n < 65536) (rest : List Char) :
    unitOf? (hex4 n ++ rest) = some n := by
  have hall : (hex4 n).all (fun c => (Text.hexDigit? c).isSome) = true := by
    rw [List.all_eq_true, hex4_eq h]
    exact fun c hc => Text.hexDigit?_of_mem_hexText hc
  simp only [unitOf?, List.take_left' (length_hex4 h), length_hex4 h, hall, and_self, if_true]
  rw [hex4_eq h, Text.hexValue_hexText]
  exact congrArg some (Nat.mod_eq_of_lt h)

@[simp] theorem Input.drop_mk (cs : List Char) (pos n : Nat) :
    Input.drop ⟨cs, pos⟩ n = ⟨cs.drop n, pos + n⟩ := rfl

theorem stringBody_escapeUnit {n : Nat} (h : n < 65536) (hn : ¬ (0xD800 ≤ n ∧ n ≤ 0xDBFF))
    {rest : List Char} (hr : rest ≠ []) (start fuel : Nat) (acc : List Char) (pos : Nat) :
    stringBody start (fuel + 1) acc ⟨escapeUnit n ++ rest, pos⟩ =
      stringBody start fuel (Char.ofNat n :: acc) ⟨rest, pos + 6⟩ := by
  have hlen : ¬ (hex4 n ++ rest).length ≤ 4 := by
    have := List.length_pos_of_ne_nil hr
    rw [List.length_append, length_hex4 h]
    omega
  have hdrop : (hex4 n ++ rest).drop 4 = rest := List.drop_left' (length_hex4 h)
  rw [escapeUnit, List.append_assoc, List.cons_append, List.cons_append, List.nil_append, stringBody]
  simp only [unitOf?_hex4 h, hlen, hn, Input.drop_mk, List.drop_succ_cons, hdrop, if_false]

theorem length_escapeUnit {n : Nat} (h : n < 65536) : (escapeUnit n).length = 6 := by
  simp [escapeUnit, length_hex4 h]

theorem stringBody_plain {c : Char} (quote : c ≠ '"') (slash : c ≠ '\\') (h : 32 ≤ c.toNat)
    (rest : List Char) (start fuel : Nat) (acc : List Char) (pos : Nat) :
    stringBody start (fuel + 1) acc ⟨c :: rest, pos⟩ =
      stringBody start fuel (c :: acc) ⟨rest, pos + 1⟩ := by
  rw [stringBody]
  split
  · next he => cases he
  · next he => exact absurd (List.cons.inj he).1 quote
  · next he => exact absurd (List.cons.inj he).1 slash
  · next he => exact absurd (List.cons.inj he).1 slash
  · next he => exact absurd (List.cons.inj he).1 slash
  · next he =>
    obtain ⟨rfl, -⟩ := List.cons.inj he
    rw [if_neg (by omega)]
    rfl

theorem stringBody_simpleEscape {c d : Char} (hu : d ≠ 'u') (h : simpleEscape? d = some c)
    (rest : List Char) (start fuel : Nat) (acc : List Char) (pos : Nat) :
    stringBody start (fuel + 1) acc ⟨'\\' :: d :: rest, pos⟩ =
      stringBody start fuel (c :: acc) ⟨rest, pos + 2⟩ := by
  rw [stringBody]
  split
  · next he => cases he
  · next he => cases he
  · next he => cases he
  · next he =>
    obtain ⟨rfl, -⟩ := List.cons.inj (List.cons.inj he).2
    exact absurd rfl hu
  · next he =>
    obtain ⟨rfl, -⟩ := List.cons.inj (List.cons.inj he).2
    rw [h]
    rfl
  · next hne he =>
    obtain ⟨rfl, rfl⟩ := List.cons.inj he
    exact absurd rfl (hne d rest rfl)

/-- A character is written as a short escape, as a unit, or as it is. -/
theorem escapeChar_cases (c : Char) :
    (∃ d, d ≠ 'u' ∧ simpleEscape? d = some c ∧ escapeChar c = ['\\', d]) ∨
    (c.toNat < 32 ∧ escapeChar c = escapeUnit c.toNat) ∨
    (c ≠ '"' ∧ c ≠ '\\' ∧ 32 ≤ c.toNat ∧ escapeChar c = [c]) := by
  by_cases short : c ∈ ['"', '\\', '\n', '\r', '\t', '\x08', '\x0c']
  · left
    simp only [List.mem_cons, List.not_mem_nil, or_false] at short
    rcases short with rfl | rfl | rfl | rfl | rfl | rfl | rfl
    · exact ⟨'"', by decide, rfl, rfl⟩
    · exact ⟨'\\', by decide, rfl, rfl⟩
    · exact ⟨'n', by decide, rfl, rfl⟩
    · exact ⟨'r', by decide, rfl, rfl⟩
    · exact ⟨'t', by decide, rfl, rfl⟩
    · exact ⟨'b', by decide, rfl, rfl⟩
    · exact ⟨'f', by decide, rfl, rfl⟩
  · right
    simp only [List.mem_cons, List.not_mem_nil, or_false, not_or] at short
    obtain ⟨quote, slash, newline, ret, tab, back, feed⟩ := short
    have long : escapeChar c = if c.toNat < 32 then escapeUnit c.toNat else [c] := by
      rw [escapeChar, if_neg quote, if_neg slash, if_neg newline, if_neg ret, if_neg tab, if_neg back,
        if_neg feed]
    rw [long]
    by_cases control : c.toNat < 32
    · exact .inl ⟨control, if_pos control⟩
    · exact .inr ⟨quote, slash, by omega, if_neg control⟩

/-- A written character is read back, if something follows it. -/
theorem stringBody_escapeChar (c : Char) {rest : List Char} (hr : rest ≠ []) (start fuel : Nat)
    (acc : List Char) (pos : Nat) :
    stringBody start (fuel + 1) acc ⟨escapeChar c ++ rest, pos⟩ =
      stringBody start fuel (c :: acc) ⟨rest, pos + (escapeChar c).length⟩ := by
  rcases escapeChar_cases c with ⟨d, hu, hd, h⟩ | ⟨control, h⟩ | ⟨quote, slash, plain, h⟩
  · rw [h]
    exact stringBody_simpleEscape hu hd rest start fuel acc pos
  · rw [h, stringBody_escapeUnit (by omega) (by omega) hr, Char.ofNat_toNat, length_escapeUnit (by omega)]
  · rw [h]
    exact stringBody_plain quote slash plain rest start fuel acc pos

theorem stringBody_flatMap (cs rest : List Char) (start : Nat) {fuel : Nat} (hf : cs.length < fuel)
    (acc : List Char) (pos : Nat) :
    stringBody start fuel acc ⟨cs.flatMap escapeChar ++ '"' :: rest, pos⟩ =
      .ok (String.ofList (acc.reverse ++ cs), ⟨rest, pos + (cs.flatMap escapeChar).length + 1⟩) := by
  induction cs generalizing fuel acc pos with
  | nil =>
    obtain ⟨fuel, rfl⟩ : ∃ k, fuel = k + 1 := ⟨fuel - 1, by simp at hf; omega⟩
    simp [stringBody]
  | cons c cs ih =>
    obtain ⟨fuel, rfl⟩ : ∃ k, fuel = k + 1 := ⟨fuel - 1, by simp at hf; omega⟩
    rw [List.flatMap_cons, List.append_assoc, stringBody_escapeChar c (by simp),
      ih (by simpa using hf)]
    simp [Nat.add_assoc]

theorem toList_quote (s : String) :
    (quote s).toList = '"' :: (s.toList.flatMap escapeChar ++ ['"']) := by
  simp [quote, quoteWith]

theorem length_le_flatMap_escapeChar (cs : List Char) : cs.length ≤ (cs.flatMap escapeChar).length := by
  induction cs with
  | nil => simp
  | cons c cs ih =>
    have h : 0 < (escapeChar c).length := by
      rcases escapeChar_cases c with ⟨d, -, -, h⟩ | ⟨-, h⟩ | ⟨-, -, -, h⟩ <;>
        exact h ▸ Nat.succ_pos _
    rw [List.flatMap_cons, List.length_append, List.length_cons]
    omega

/-- A written string is read back. -/
theorem readString_quote (s : String) (rest : List Char) {fuel : Nat}
    (hf : (quote s).toList.length ≤ fuel + 1) (pos : Nat) :
    readString fuel ⟨(quote s).toList ++ rest, pos⟩ =
      .ok (s, ⟨rest, pos + (quote s).toList.length⟩) := by
  have long := length_le_flatMap_escapeChar s.toList
  rw [toList_quote] at hf ⊢
  simp only [List.length_cons, List.length_append, List.length_nil] at hf
  simp only [readString, Input.drop_mk, List.cons_append, List.append_assoc, List.nil_append,
    List.drop_succ_cons, List.drop_zero]
  rw [stringBody_flatMap _ _ _ (by omega)]
  simp [Nat.add_assoc]
  omega

/-! ## Numbers -/

/-- The text does not go on with a number. -/
def Stops (rest : List Char) : Prop :=
  ∀ c ∈ rest.head?, c.isDigit = false ∧ c ≠ '.' ∧ c ≠ 'e' ∧ c ≠ 'E'

theorem digitValue_toDigits (n : Nat) : digitValue (Nat.toDigits 10 n) = n := by
  refine .trans ?_ (Nat.ofDigitChars_ten_toDigits (n := n))
  rw [digitValue, Nat.ofDigitChars_eq_foldl]
  congr 1
  funext k c
  simp [Nat.mul_comm]

theorem isDigit_toDigits {n : Nat} {c : Char} (h : c ∈ Nat.toDigits 10 n) : c.isDigit = true :=
  Nat.isDigit_of_mem_toDigits (by decide) (by decide) h

/-- No zero stands in front, except for the number zero. -/
theorem toDigits_eq_zero_cons {n : Nat} {cs : List Char} (h : Nat.toDigits 10 n = '0' :: cs) :
    cs = [] := by
  induction n using Nat.strongRecOn generalizing cs with
  | ind n ih =>
    rw [Nat.toDigits_eq_if (by decide)] at h
    split at h
    · exact (List.cons.inj h).2.symm
    · next hn =>
      -- the digits of a tenth of the number come first, and they do not start with a zero
      obtain ⟨d, ds, hd⟩ := List.exists_cons_of_ne_nil (Nat.toDigits_ne_nil (n := n / 10) (b := 10))
      rw [hd, List.cons_append] at h
      obtain ⟨rfl, -⟩ := List.cons.inj h
      obtain rfl := ih (n / 10) (by omega) hd
      have := digitValue_toDigits (n / 10)
      rw [hd] at this
      simp [digitValue] at this
      omega

theorem Stops.head {rest : List Char} (hs : Stops rest) : ∀ c ∈ rest.head?, c.isDigit = false :=
  fun c hc => (hs c hc).1

theorem takeWhile_isDigit {ds rest : List Char} (hd : ∀ c ∈ ds, c.isDigit = true)
    (hr : ∀ c ∈ rest.head?, c.isDigit = false) : (ds ++ rest).takeWhile Char.isDigit = ds := by
  rw [List.takeWhile_append_of_pos hd]
  cases rest with
  | nil => simp
  | cons c rest => simp [hr c rfl]

theorem Stops.fractionDigits {rest : List Char} (hs : Stops rest) : fractionDigits rest = [] := by
  unfold Json.fractionDigits
  split
  · exact absurd rfl (hs '.' rfl).2.1
  · rfl

theorem Stops.exponent? {rest : List Char} (hs : Stops rest) : exponent? rest = none := by
  unfold Json.exponent?
  split
  · next e rest =>
    rw [if_neg]
    rintro (rfl | rfl)
    · exact absurd rfl (hs 'e' rfl).2.2.1
    · exact absurd rfl (hs 'E' rfl).2.2.2
  · rfl

theorem readNumber?_digits (n : Nat) (negative : Bool) {rest : List Char} (hs : Stops rest)
    (pos : Nat) :
    readNumber? ⟨(if negative then ['-'] else []) ++ (Nat.toDigits 10 n ++ rest), pos⟩ =
      some (.int (if negative then -n else n),
        ⟨rest, pos + (Nat.toDigits 10 n).length + if negative then 1 else 0⟩) := by
  obtain ⟨d, ds, hd⟩ := List.exists_cons_of_ne_nil (Nat.toDigits_ne_nil (n := n) (b := 10))
  have digits : ∀ c ∈ d :: ds, c.isDigit = true := fun c hc => isDigit_toDigits (hd ▸ hc)
  have value : digitValue (d :: ds) = n := hd ▸ digitValue_toDigits n
  have minus : d ≠ '-' := by
    rintro rfl
    exact absurd (digits '-' List.mem_cons_self) (by decide)
  have whole : wholeDigits (d :: ds ++ rest) = d :: ds := by
    unfold wholeDigits
    split
    · next h =>
      obtain rfl := (List.cons.inj h).1
      rw [toDigits_eq_zero_cons hd]
    · exact takeWhile_isDigit digits hs.head
  have start : (if negative then ((if negative then ['-'] else []) ++ (d :: ds ++ rest)).drop 1
      else (if negative then ['-'] else []) ++ (d :: ds ++ rest)) = d :: ds ++ rest := by
    cases negative <;> rfl
  have sign : (((if negative then ['-'] else []) ++ (d :: ds ++ rest)).head? == some '-') =
      negative := by
    cases negative <;> simp [minus]
  rw [hd]
  unfold readNumber?
  simp only [sign, start, whole, List.drop_left, hs.fractionDigits, List.isEmpty_nil, if_true,
    hs.exponent?, value]
  cases negative
  · simp
  · simp [Nat.add_assoc]

theorem toList_toString (n : Int) :
    (toString n).toList = (if n < 0 then ['-'] else []) ++ Nat.toDigits 10 n.natAbs := by
  cases n with
  | ofNat m => simp [Int.toString_eq_repr, Int.repr]
  | negSucc m => simp [Int.toString_eq_repr, Int.repr, Int.negSucc_lt_zero]

/-- A written integer is read back. -/
theorem readNumber?_toString (n : Int) {rest : List Char} (hs : Stops rest) (pos : Nat) :
    readNumber? ⟨(toString n).toList ++ rest, pos⟩ =
      some (.int n, ⟨rest, pos + (toString n).toList.length⟩) := by
  rw [toList_toString, List.append_assoc]
  by_cases hn : n < 0
  · have h := readNumber?_digits n.natAbs true hs pos
    have value : -(n.natAbs : Int) = n := by omega
    simp only [hn, if_true, value] at h ⊢
    rw [h, List.length_append, List.length_singleton, Nat.add_assoc, Nat.add_comm 1]
  · have h := readNumber?_digits n.natAbs false hs pos
    have value : (n.natAbs : Int) = n := by omega
    simp only [hn, Bool.false_eq_true, if_false, List.nil_append, value, Nat.add_zero] at h ⊢
    exact h

theorem exists_digit_of_readNumber? {i : Input} {r : Json × Input} (h : readNumber? i = some r) :
    ∃ c t, c.isDigit = true ∧ (i.rest = c :: t ∨ i.rest = '-' :: c :: t) := by
  have nonempty : ∀ cs, wholeDigits cs ≠ [] → ∃ c t, c.isDigit = true ∧ cs = c :: t := by
    intro cs hw
    unfold wholeDigits at hw
    split at hw
    · exact ⟨'0', _, rfl, rfl⟩
    · cases cs with
      | nil => simp at hw
      | cons c t =>
        refine ⟨c, t, ?_, rfl⟩
        by_contra hc
        simp [hc] at hw
  have hw : wholeDigits (if (i.rest.head? == some '-') = true then i.rest.drop 1 else i.rest) ≠ [] := by
    intro e
    simp only [readNumber?, e, List.isEmpty_nil, if_true, reduceCtorEq] at h
  obtain ⟨c, t, hc, hs⟩ := nonempty _ hw
  split at hs
  · next hm =>
    obtain ⟨d, ds, hr⟩ : ∃ d ds, i.rest = d :: ds :=
      List.exists_cons_of_ne_nil (by rintro e; simp [e] at hm)
    simp only [hr, List.head?_cons, beq_iff_eq, Option.some.injEq] at hm
    subst hm
    exact ⟨c, t, hc, .inr (by simpa [hr] using hs)⟩
  · exact ⟨c, t, hc, .inl hs⟩

/-- What is a number is nothing else. -/
theorem readValue_of_readNumber? {i : Input} {r : Json × Input} (h : readNumber? i = some r)
    (fuel : Nat) : readValue (fuel + 1) i = .ok r := by
  obtain ⟨c, t, hc, hi⟩ := exists_digit_of_readNumber? h
  have other : ∀ d : Char, d.isDigit = false → c ≠ d := by
    rintro d hd rfl
    rw [hc] at hd
    cases hd
  have noWord : (words.find? fun w => i.startsWith w.1.toList) = none := by
    rcases hi with hi | hi <;>
      simp [words, Input.startsWith, hi, other]
  rcases hi with hi | hi <;> simp [readValue, hi, noWord, h, other]

/-- The text of the number is read as the number. -/
def ReadsBack (x : Binary64) : Prop :=
  ∀ rest pos, Stops rest → readNumber? ⟨(Binary64.keptLayout.render x).toList ++ rest, pos⟩ =
    some (.float x, ⟨rest, pos + (Binary64.keptLayout.render x).toList.length⟩)

theorem ReadsBack.isFinite {x : Binary64} (h : ReadsBack x) : x.isFinite = true := by
  have hx := h [] 0 (by simp [Stops])
  cases x with
  | finite => rfl
  | infinite negative => cases negative <;> cases hx
  | nan => cases hx

/-- A decimal below one is read back. -/
theorem readNumber?_fraction {ds rest : List Char} (hd : ∀ c ∈ ds, c.isDigit = true) (hne : ds ≠ [])
    (hs : Stops rest) (pos : Nat) :
    readNumber? ⟨'0' :: '.' :: ds ++ rest, pos⟩ =
      some (.float (.ofDecimal false (digitValue ('0' :: ds)) (-ds.length)),
        ⟨rest, pos + ('0' :: '.' :: ds).length⟩) := by
  have whole : wholeDigits ('0' :: '.' :: (ds ++ rest)) = ['0'] := rfl
  have fraction : fractionDigits ('.' :: (ds ++ rest)) = ds := takeWhile_isDigit hd hs.head
  simp [readNumber?, whole, fraction, hne, hs.exponent?, Nat.add_comm 1]

end AwaitLint.Json
