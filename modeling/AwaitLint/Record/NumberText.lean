import AwaitLint.Number.Binary64
import AwaitLint.Text.Blank

/-! # Numbers written as text

An integer may have a sign, zeros in front, single underscores between its digits and a fraction of
zeros. Any other number is written in decimal, with or without an exponent, or as a word.
-/

namespace AwaitLint.Record

/-- A blank, but not one of the four separators of the ASCII controls. -/
def isMargin (c : Char) : Bool := Text.isBlank c && !(0x1C ≤ c.toNat && c.toNat ≤ 0x1F)

def trim (cs : List Char) : List Char :=
  ((cs.dropWhile isMargin).reverse.dropWhile isMargin).reverse

def isDigit (c : Char) : Bool := '0' ≤ c && c ≤ '9'

/-- The value of decimal digits. -/
def digitsValue (cs : List Char) : Nat := cs.foldl (fun n c => n * 10 + (c.toNat - 48)) 0

/-- No two underscores stand together. -/
def spreadOut : List Char → Bool
  | '_' :: '_' :: _ => false
  | _ :: rest => spreadOut rest
  | [] => true

/-- Takes out underscores. There must be none at the ends, and no two together. -/
def joined? (cs : List Char) : Option (List Char) :=
  if cs.head? = some '_' ∨ cs.getLast? = some '_' ∨ spreadOut cs = false then none
  else some (cs.filter (· ≠ '_'))

/-- Goes past zeros and underscores; the last of them is kept if no other digit follows. -/
def skipZeros (last : Char) : List Char → Option (List Char)
  | [] => some [last]
  | c :: cs =>
    if c = '0' ∨ c = '_' then skipZeros c cs
    else if c = '.' then some (last :: c :: cs)
    else if isDigit c then some (c :: cs)
    else none

/-- The part before a fraction of zeros. -/
def dropZeroFraction (cs : List Char) : List Char :=
  let whole := cs.takeWhile (· ≠ '.')
  if (cs.drop (whole.length + 1)).all (· = '0') then whole else cs

/-- The value of a text that is digits only, once a fraction of zeros and underscores are gone. -/
def wholeValue? (cs : List Char) : Option Nat :=
  match joined? (dropZeroFraction cs) with
  | some ds => if !ds.isEmpty && ds.all isDigit then some (digitsValue ds) else none
  | none => none

/-- An integer without a sign. -/
def natural? : List Char → Option Nat
  | [] => none
  | c :: cs =>
    if c = '0' then (skipZeros c cs).bind wholeValue?
    else if isDigit c then wholeValue? (c :: cs)
    else none

/-- A negated integer, in whose digits no zero stands in front. -/
def negated? : List Char → Option Nat
  | [] => none
  | c :: cs =>
    if c = '0' ∧ (joined? (dropZeroFraction (c :: cs))).any (1 < ·.length) then none
    else if isDigit c then wholeValue? (c :: cs)
    else none

/-- The integer that a text stands for. -/
def integer? (text : String) : Option Int :=
  match trim text.toList with
  | '-' :: cs => (negated? cs).map fun n => -(n : Int)
  | '+' :: cs => (natural? cs).map fun n => (n : Int)
  | cs => (natural? cs).map fun n => (n : Int)

/-- The exponent after an `e`. -/
def exponent? : List Char → Option Int
  | [] => some 0
  | e :: cs =>
    if e = 'e' ∨ e = 'E' then
      let (negative, ds) := match cs with
        | '-' :: ds => (true, ds)
        | '+' :: ds => (false, ds)
        | ds => (false, ds)
      if !ds.isEmpty && ds.all isDigit then
        some (if negative then -(digitsValue ds : Int) else digitsValue ds)
      else none
    else none

/-- A number without a sign. -/
def unsigned? (negative : Bool) (cs : List Char) : Option Binary64 :=
  let word := String.ofList (cs.map Char.toLower)
  if word = "inf" ∨ word = "infinity" then some (.infinite negative)
  else if word = "nan" then some .nan
  else
    let whole := cs.takeWhile isDigit
    let rest := cs.drop whole.length
    let (fraction, rest) := match rest with
      | '.' :: r => (r.takeWhile isDigit, r.dropWhile isDigit)
      | r => ([], r)
    if whole.isEmpty && fraction.isEmpty then none
    else (exponent? rest).map fun e =>
      .ofDecimal negative (digitsValue (whole ++ fraction)) (e - fraction.length)

def signed? : List Char → Option Binary64
  | '-' :: cs => unsigned? true cs
  | '+' :: cs => unsigned? false cs
  | cs => unsigned? false cs

/-- The number that a text stands for. -/
def number? (text : String) : Option Binary64 :=
  (signed? (trim text.toList)).or ((joined? text.toList).bind signed?)

end AwaitLint.Record
