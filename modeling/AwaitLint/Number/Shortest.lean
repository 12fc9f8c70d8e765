import AwaitLint.Number.Binary64

/-! # The shortest decimal text of a number

Of the decimals that are nearest to the number itself, those with the fewest digits are taken, and
of these the closest one.
-/

namespace AwaitLint.Binary64

/-- `digits · 10 ^ exponent`. -/
structure Decimal where
  digits : Nat
  exponent : Int
  deriving DecidableEq, Repr

/-- The number of decimal digits. -/
def digitCount (n : Nat) : Nat := (Nat.toDigits 10 n).length

/-- `num / den · 10 ^ k`, with the fraction cut off. -/
def shifted (num den : Nat) (k : Int) : Nat × Nat :=
  if k < 0 then (num, den * Nat.pow 10 k.natAbs) else (num * Nat.pow 10 k.natAbs, den)

/-- The power of ten just above a positive quotient, given a guess that is at most one too small. -/
def decimalPoint (num den : Nat) : Int :=
  let guess : Int := (digitCount num : Int) - digitCount den
  let (n, d) := shifted num den (-guess)
  if n < d then guess else guess + 1

/-- The best decimal with `count` digits, if one reads back as `x`. -/
def withDigits (x : Binary64) (num den : Nat) (point : Int) (count : Nat) : Option Decimal :=
  let shift : Int := count - point
  let (n, d) := shifted num den shift
  let low := n / d
  let reads (k : Nat) : Bool := ofDecimal false k (-shift) == x
  let far := 2 * (n % d)
  match reads low, reads (low + 1) with
  | true, true =>
    if far < d ∨ (far = d ∧ low % 2 = 0) then some ⟨low, -shift⟩ else some ⟨low + 1, -shift⟩
  | true, false => some ⟨low, -shift⟩
  | false, true => some ⟨low + 1, -shift⟩
  | false, false => none

/-- Takes off zeros at the end. -/
def dropZeros : Nat → Decimal → Decimal
  | 0, d => d
  | fuel + 1, d =>
    if d.digits ≠ 0 ∧ d.digits % 10 = 0 then dropZeros fuel ⟨d.digits / 10, d.exponent + 1⟩ else d

/-- The shortest decimal for a positive number; seventeen digits always suffice. -/
def shortest (m : Nat) (e : Int) : Decimal :=
  let (num, den) := ratio m e
  let x := finite false m e
  let point := decimalPoint num den
  let found := (List.range 17).findSome? fun i => withDigits x num den point (i + 1)
  dropZeros 20 (found.getD ⟨0, 0⟩)

/-- How a number is written. -/
structure Layout where
  /-- Decimal points in this range are written without an exponent. -/
  lowest : Int
  highest : Int
  nan : String
  infinity : String
  /-- Whether an exponent that is not negative has a sign. -/
  signed : Bool
  /-- The least number of digits of an exponent. -/
  width : Nat

def pad (width : Nat) (s : String) : String :=
  String.ofList (List.replicate (width - s.length) '0') ++ s

/-- The digits with a point, or with an exponent. A fraction is always shown without an exponent. -/
def Layout.digits (l : Layout) (d : Decimal) : String :=
  let text := toString d.digits
  let cs := text.toList
  let point : Int := d.exponent + text.length
  if l.lowest < point ∧ point ≤ l.highest then
    if point ≤ 0 then "0." ++ String.ofList (List.replicate point.natAbs '0') ++ text
    else
      let whole := point.toNat
      if text.length ≤ whole then
        text ++ String.ofList (List.replicate (whole - text.length) '0') ++ ".0"
      else String.ofList (cs.take whole) ++ "." ++ String.ofList (cs.drop whole)
  else
    let e := point - 1
    let mantissa := match cs with
      | [c] => c.toString
      | c :: rest => c.toString ++ "." ++ String.ofList rest
      | [] => "0"
    mantissa ++ "e" ++ (if e < 0 then "-" else if l.signed then "+" else "")
      ++ pad l.width (toString e.natAbs)

def Layout.render (l : Layout) : Binary64 → String
  | .finite s m e =>
    (if s then "-" else "") ++ if m = 0 then "0.0" else l.digits (shortest m e)
  | .infinite s => (if s then "-" else "") ++ l.infinity
  | .nan => l.nan

/-- Numbers that are printed are written positionally between a ten-thousandth and ten to the sixteenth, and
elsewhere with an exponent as in `1e-05`. -/
def reportLayout : Layout := ⟨-4, 16, "NaN", "Infinity", true, 2⟩

/-- Numbers that are kept are written positionally from a hundred-thousandth on, and elsewhere with an
exponent as in `1e-6`. -/
def keptLayout : Layout := ⟨-5, 16, "NaN", "Infinity", false, 1⟩

end AwaitLint.Binary64
