import AwaitLint.Grammar.Lexer
import Mathlib.Data.List.TakeWhile

/-! # The characters of numbers, names and punctuation

A character is special if it is a blank, a line end, a quote, a bracket, a backslash or the mark of a
comment. Of all tokens only brackets and strings have special characters.
-/

namespace AwaitLint

/-- The characters that open, close, join or end something, or start a comment. -/
def Text.special : List Char :=
  [' ', '\t', '\x0c', '\n', '\r', '\\', '#', '"', '\'', '(', '[', '\x7b', ')', ']', '\x7d']

def Text.isPlain (c : Char) : Bool := !special.contains c

def Text.isOpening (c : Char) : Bool := c == '(' || c == '[' || c == '\x7b'

def Text.isClosing (c : Char) : Bool := c == ')' || c == ']' || c == '\x7d'

open Text

/-- A class of characters is plain if no special character belongs to it. -/
theorem Text.isPlain_of {p : Char → Bool} (hp : special.any p = false) {c : Char}
    (h : p c = true) : isPlain c = true := by
  have hmem : c ∉ special := fun hmem => List.any_eq_false.1 hp c hmem h
  simpa [isPlain] using hmem

namespace Grammar

/-! ## The cursor -/

namespace Cursor

theorem skip_eq (n : Nat) (c : Cursor) :
    c.skip n = ⟨c.rest.drop n, c.mark.advance (c.rest.take n)⟩ := by
  induction n generalizing c with
  | zero => rfl
  | succ n ih =>
    obtain ⟨rest, m⟩ := c
    cases rest with
    | nil => rfl
    | cons x xs => exact ih ⟨xs, m.step x⟩

@[simp] theorem rest_skip (n : Nat) (c : Cursor) : (c.skip n).rest = c.rest.drop n := by
  rw [skip_eq]

theorem skip_skip (m n : Nat) (c : Cursor) : (c.skip m).skip n = c.skip (m + n) := by
  rw [skip_eq, skip_eq m, skip_eq (m + n), List.drop_drop, List.take_add, Mark.advance, Mark.advance,
    Mark.advance, List.foldl_append]

theorem skipWhile_eq (p : Char → Bool) (c : Cursor) :
    c.skipWhile p = c.skip (c.rest.takeWhile p).length := by
  have hparts := List.takeWhile_append_dropWhile (p := p) (l := c.rest)
  have hdrop : (c.rest.takeWhile p ++ c.rest.dropWhile p).drop (c.rest.takeWhile p).length =
      c.rest.dropWhile p := List.drop_left ..
  have htake : (c.rest.takeWhile p ++ c.rest.dropWhile p).take (c.rest.takeWhile p).length =
      c.rest.takeWhile p := List.take_left ..
  rw [hparts] at hdrop htake
  rw [skip_eq, hdrop, htake]
  rfl

end Cursor

/-! ## Numbers -/

namespace Number

/-- The characters of a text that bring a count from `n` to `m` are plain; `left` is left. -/
def Takes (n : Nat) (text : List Char) (m : Nat) (left : List Char) : Prop :=
  ∃ taken, text = taken ++ left ∧ m = n + taken.length ∧ ∀ c ∈ taken, isPlain c = true

namespace Takes

variable {n m k : Nat} {text middle left : List Char} {c : Char}

theorem refl (n : Nat) (text : List Char) : Takes n text n text := ⟨[], rfl, rfl, by simp⟩

theorem trans (h : Takes n text m middle) (h' : Takes m middle k left) : Takes n text k left := by
  obtain ⟨taken, rfl, rfl, plain⟩ := h
  obtain ⟨more, rfl, rfl, plain'⟩ := h'
  refine ⟨taken ++ more, by simp, by simp [Nat.add_assoc], fun c hc => ?_⟩
  exact (List.mem_append.1 hc).elim (plain c) (plain' c)

theorem cons (hc : isPlain c = true) (h : Takes (n + 1) text m left) : Takes n (c :: text) m left :=
  .trans ⟨[c], rfl, rfl, by simpa using hc⟩ h

end Takes

theorem digits_takes {base : String} {isDigit : Char → Bool} (hdigit : special.any isDigit = false)
    {n m : Nat} {cs left : List Char} (h : digits base isDigit n cs = .ok (m, left)) :
    Takes n cs m left := by
  fun_induction digits base isDigit n cs with
  | case1 n c cs hc ih => exact .cons (by decide) (.cons (isPlain_of hdigit hc) (ih h))
  | case2 => cases h
  | case3 n c cs _ hc ih => exact .cons (isPlain_of hdigit hc) (ih h)
  | case4 => cases h; exact .refl _ _
  | case5 => cases h; exact .refl _ _

theorem decimalDigits_takes {n m : Nat} {cs left : List Char}
    (h : decimalDigits n cs = .ok (m, left)) : Takes n cs m left :=
  digits_takes (by decide) h

theorem isPlain_of_isDigit {c : Char} (h : c.isDigit = true) : isPlain c = true :=
  isPlain_of (p := Char.isDigit) (by decide) h

/-- Whatever a scanner reads of a text, from a count of `n` on, is plain. -/
structure ReadsPlain (n : Nat) (text : List Char) (r : Except Fault (NumberForm × Nat)) : Prop where
  takes : ∀ form m, r = .ok (form, m) → ∃ left, Takes n text m left

namespace ReadsPlain

variable {n m : Nat} {text middle : List Char} {r : Except Fault (NumberForm × Nat)} {c : Char}

theorem error (e : Fault) : ReadsPlain n text (.error e) := by
  constructor
  intro form m h
  cases h

theorem nothing (form : NumberForm) : ReadsPlain n text (.ok (form, n)) := by
  constructor
  intro f m h
  cases h
  exact ⟨text, .refl n text⟩

theorem after (taken : Takes n text m middle) (h : ReadsPlain m middle r) : ReadsPlain n text r := by
  constructor
  intro form k hk
  obtain ⟨left, hleft⟩ := h.takes form k hk
  exact ⟨left, taken.trans hleft⟩

theorem cons (hc : isPlain c = true) (h : ReadsPlain (n + 1) text r) : ReadsPlain n (c :: text) r :=
  .after (.cons hc (.refl _ _)) h

/-- First digits, then what follows them. -/
theorem bind {x : Except Fault (Nat × List Char)} {f : Nat × List Char → Except Fault (NumberForm × Nat)}
    (hx : ∀ m left, x = .ok (m, left) → Takes n text m left) (hf : ∀ m left, ReadsPlain m left (f (m, left))) :
    ReadsPlain n text (x >>= f) := by
  cases x with
  | error e => exact .error e
  | ok p => exact .after (hx p.1 p.2 rfl) (hf p.1 p.2)

end ReadsPlain

theorem ends_plain (base : String) (form : NumberForm) (n : Nat) (rest : List Char) :
    ReadsPlain n rest (ends base form n rest) := by
  unfold ends
  split
  · split
    · exact .error _
    · exact .nothing _
  · exact .nothing _

theorem basedEnd_plain (base : String) (n : Nat) (rest : List Char) :
    ReadsPlain n rest (basedEnd base n rest) := by
  unfold basedEnd
  split
  · split
    · exact .error _
    · exact ends_plain ..
  · exact .nothing _

theorem realEnd_plain (form : NumberForm) (n : Nat) (rest : List Char) :
    ReadsPlain n rest (realEnd form n rest) := by
  unfold realEnd
  split
  · exact .cons (by decide) (ends_plain ..)
  · exact .cons (by decide) (ends_plain ..)
  · exact ends_plain ..

theorem exponent_plain (form : NumberForm) (n : Nat) {letter : Char} (hletter : isPlain letter = true)
    (cs : List Char) : ReadsPlain n (letter :: cs) (exponent form n letter cs) := by
  have digitsThenEnd (m : Nat) (ds : List Char) :
      ReadsPlain m ds (decimalDigits m ds >>= fun p => realEnd .real p.1 p.2) :=
    .bind (fun _ _ => decimalDigits_takes) fun _ _ => realEnd_plain ..
  unfold exponent
  split
  · next c d ds =>
    split
    · next hsign =>
      split
      · next hd =>
        have hc : isPlain c = true := by
          rcases hsign with rfl | rfl <;> decide
        exact .cons hletter (.cons hc (.cons (isPlain_of_isDigit hd) (digitsThenEnd _ _)))
      · exact .error _
    · split
      · next hc => exact .cons hletter (.cons (isPlain_of_isDigit hc) (digitsThenEnd _ _))
      · exact ends_plain ..
  · exact ends_plain ..

theorem fractionEnd_plain (form : NumberForm) (n : Nat) (rest : List Char) :
    ReadsPlain n rest (fractionEnd form n rest) := by
  unfold fractionEnd
  split
  · exact exponent_plain _ _ (by decide) _
  · exact exponent_plain _ _ (by decide) _
  · exact realEnd_plain ..

theorem fraction_plain (n : Nat) (rest : List Char) : ReadsPlain n rest (fraction n rest) := by
  unfold fraction
  split
  · split
    · next hc =>
      exact .cons (isPlain_of_isDigit hc) (.bind (fun _ _ => decimalDigits_takes) fun _ _ => fractionEnd_plain ..)
    · exact fractionEnd_plain ..
  · exact .nothing _

theorem wholeEnd_plain (all : List Char) (n : Nat) (rest : List Char) :
    ReadsPlain n rest (wholeEnd all n rest) := by
  unfold wholeEnd
  split
  · exact .cons (by decide) (fraction_plain ..)
  · exact fractionEnd_plain ..

theorem zeros_takes {n m : Nat} {cs left : List Char} (h : zeros n cs = .ok (m, left)) :
    Takes n cs m left := by
  fun_induction zeros n cs with
  | case1 n cs ih => exact .cons (by decide) (.cons (by decide) (ih h))
  | case2 => cases h; exact .cons (by decide) (.refl _ _)
  | case3 => cases h
  | case4 n cs _ ih => exact .cons (by decide) (ih h)
  | case5 => cases h; exact .refl _ _
  | case6 => cases h; exact .refl _ _

theorem zeroLed_plain (all cs : List Char) : ReadsPlain 1 cs (zeroLed all cs) := by
  refine .bind (fun _ _ => zeros_takes) fun n rest => ?_
  dsimp only
  split
  · split
    · next hc =>
      refine .cons (isPlain_of_isDigit hc) (.bind (fun _ _ => decimalDigits_takes) fun m left => ?_)
      dsimp only
      split
      · exact wholeEnd_plain ..
      · exact wholeEnd_plain ..
      · exact wholeEnd_plain ..
      · exact wholeEnd_plain ..
      · exact wholeEnd_plain ..
      · exact .error _
    · exact wholeEnd_plain ..
  · exact .nothing _

theorem inBase_plain (base : String) {isDigit : Char → Bool} (hdigit : special.any isDigit = false)
    (cs : List Char) : ReadsPlain 2 cs (inBase base isDigit cs) := by
  refine .bind (fun m left h => ?_) fun _ _ => basedEnd_plain ..
  unfold based at h
  split at h
  · exact digits_takes hdigit h
  · split at h
    · exact digits_takes hdigit h
    · cases h
  · cases h

/-- What a number has after its first character is plain. -/
theorem read_plain (c : Char) (cs : List Char) : ReadsPlain 1 cs (read (c :: cs)) := by
  have based (letter : Char) (hletter : isPlain letter = true) (base : String) {isDigit : Char → Bool}
      (hdigit : special.any isDigit = false) (ds : List Char) :
      ReadsPlain 1 (letter :: ds) (inBase base isDigit ds) :=
    .cons hletter (inBase_plain base hdigit ds)
  unfold read
  split <;> try obtain ⟨-, rfl⟩ := List.cons.inj ‹_›
  · exact fraction_plain ..
  · exact based 'x' (by decide) _ (by decide) _
  · exact based 'X' (by decide) _ (by decide) _
  · exact based 'o' (by decide) _ (by decide) _
  · exact based 'O' (by decide) _ (by decide) _
  · exact based 'b' (by decide) _ (by decide) _
  · exact based 'B' (by decide) _ (by decide) _
  · exact zeroLed_plain ..
  · exact .bind (fun _ _ => decimalDigits_takes) fun _ _ => wholeEnd_plain ..
  · next h => cases h

theorem isPlain_of_isNameChar {c : Char} (h : isNameChar c = true) : isPlain c = true :=
  isPlain_of (p := isNameChar) (by decide) h

end Number

/-! ## Punctuation -/

/-- Punctuation is plain, or it is one bracket. -/
theorem Punct.read?_cases {text : List Char} {p : Punct} {n : Nat} (h : Punct.read? text = some (p, n)) :
    0 < n ∧ n ≤ text.length ∧
      if p = .lparen ∨ p = .lbracket ∨ p = .lbrace then n = 1 ∧ text.head?.any isOpening = true
      else if p = .rparen ∨ p = .rbracket ∨ p = .rbrace then n = 1 ∧ text.head?.any isClosing = true
      else (text.take n).all isPlain = true := by
  unfold Punct.read? at h
  split at h <;> cases h <;> simp [isPlain, special, isOpening, isClosing]

end Grammar

end AwaitLint
