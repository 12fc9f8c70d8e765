/-! # Binary numbers with 53 digits

A finite number is `mantissa · 2 ^ exponent` with a sign; in normal form the mantissa has 53 binary
digits, or fewer at the least exponent. Results are the nearest such numbers to exact quotients of
naturals, and a tie goes to the even mantissa.
-/

namespace AwaitLint

inductive Binary64
  | finite (negative : Bool) (mantissa : Nat) (exponent : Int)
  | infinite (negative : Bool)
  | nan
  deriving DecidableEq, Repr, Inhabited

namespace Binary64

def minExponent : Int := -1074
def maxExponent : Int := 971

/-- The quotient rounded to the nearest natural, a tie to the even one. -/
def roundDiv (num den : Nat) : Nat :=
  let q := num / den
  let r := num % den
  if 2 * r < den then q
  else if den < 2 * r then q + 1
  else if q % 2 = 0 then q else q + 1

/-- `num · 2 ^ (-e) / den`, rounded. -/
def scaled (num den : Nat) (e : Int) : Nat :=
  if e < 0 then roundDiv (num * Nat.pow 2 e.natAbs) den
  else roundDiv num (den * Nat.pow 2 e.natAbs)

/-- The number nearest to a quotient with a positive denominator. -/
def ofRatio (negative : Bool) (num den : Nat) : Binary64 :=
  if num = 0 then finite negative 0 minExponent
  else
    -- at this exponent the mantissa has 53 digits, or one digit more
    let guess : Int := (Nat.log2 num : Int) - Nat.log2 den - 53
    let e := max guess minExponent
    let e := if scaled num den e < Nat.pow 2 53 then e else e + 1
    let m := scaled num den e
    let (m, e) := if m = Nat.pow 2 53 then (Nat.pow 2 52, e + 1) else (m, e)
    if maxExponent < e then infinite negative else finite negative m e

def zero : Binary64 := finite false 0 minExponent

def ofNat (n : Nat) : Binary64 := ofRatio false n 1

def ofInt (n : Int) : Binary64 := ofRatio (n < 0) n.natAbs 1

/-- `digits · 10 ^ exponent`. -/
def ofDecimal (negative : Bool) (digits : Nat) (exponent : Int) : Binary64 :=
  if digits = 0 then finite negative 0 minExponent
  else if 400 < exponent then infinite negative
  else if exponent < 0 then
    -- far below the least number nothing is left
    if exponent < -(2000 + (Nat.log2 digits : Int)) then finite negative 0 minExponent
    else ofRatio negative digits (Nat.pow 10 exponent.natAbs)
  else ofRatio negative (digits * Nat.pow 10 exponent.natAbs) 1

/-- The size of a finite number as a quotient. -/
def ratio (m : Nat) (e : Int) : Nat × Nat :=
  if e < 0 then (m, Nat.pow 2 e.natAbs) else (m * Nat.pow 2 e.natAbs, 1)

theorem ratio_pos (m : Nat) (e : Int) : 0 < (ratio m e).2 := by
  unfold ratio
  split
  · exact Nat.pow_pos Nat.two_pos
  · exact Nat.one_pos

def isFinite : Binary64 → Bool
  | finite _ _ _ => true
  | _ => false

def divNat : Binary64 → Nat → Binary64
  | finite s m e, d => let (n, k) := ratio m e; ofRatio s n (k * d)
  | x, _ => x

def mul : Binary64 → Binary64 → Binary64
  | finite s m e, finite t k f =>
    let (a, b) := ratio m e
    let (c, d) := ratio k f
    ofRatio (s != t) (a * c) (b * d)
  | nan, _ | _, nan => nan
  | infinite s, finite t k _ => if k = 0 then nan else infinite (s != t)
  | finite s m _, infinite t => if m = 0 then nan else infinite (s != t)
  | infinite s, infinite t => infinite (s != t)

/-- Rounds to so many decimal places, a tie to the even digit, and takes the nearest number. -/
def roundPlaces (places : Nat) : Binary64 → Binary64
  | finite s m e =>
    let (n, d) := ratio m e
    ofRatio s (roundDiv (n * Nat.pow 10 places) d) (Nat.pow 10 places)
  | x => x

/-- A key in the order of the numbers; a NaN has none. -/
def signedRatio? : Binary64 → Option (Int × Nat)
  | finite s m e => let (n, d) := ratio m e; some (if s then -(n : Int) else n, d)
  | infinite s => some (if s then -(Nat.pow 2 1100 : Int) else Nat.pow 2 1100, 1)
  | nan => none

def lt (x y : Binary64) : Bool :=
  match x.signedRatio?, y.signedRatio? with
  | some (a, b), some (c, d) => decide (a * d < c * b)
  | _, _ => false

def le (x y : Binary64) : Bool :=
  match x.signedRatio?, y.signedRatio? with
  | some (a, b), some (c, d) => decide (a * d ≤ c * b)
  | _, _ => false

/-- Equal as numbers: both zeros are one. -/
def eq (x y : Binary64) : Bool :=
  match x.signedRatio?, y.signedRatio? with
  | some (a, b), some (c, d) => decide (a * d = c * b)
  | _, _ => false

/-- The integer that a number is, if it is one. -/
def toInt? : Binary64 → Option Int
  | finite s m e =>
    let (n, d) := ratio m e
    if n % d = 0 then some (if s then -((n / d : Nat) : Int) else ((n / d : Nat) : Int)) else none
  | _ => none

/-- The number without its fraction. -/
def truncate : Binary64 → Int
  | finite s m e =>
    let (n, d) := ratio m e
    if s then -((n / d : Nat) : Int) else ((n / d : Nat) : Int)
  | _ => 0

end Binary64

end AwaitLint
