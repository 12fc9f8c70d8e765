/-! # Sets of code points given by their boundaries

A set is an ascending array of boundaries: a code point belongs to it when an odd number of them is
not above it. Tables are written as text, as differences in hexadecimal.
-/

namespace AwaitLint.Text

def hexDigit? (c : Char) : Option Nat :=
  if '0' ≤ c ∧ c ≤ '9' then some (c.toNat - 48)
  else if 'a' ≤ c ∧ c ≤ 'f' then some (c.toNat - 87)
  else if 'A' ≤ c ∧ c ≤ 'F' then some (c.toNat - 55)
  else none

/-- The value of the hexadecimal digits of a text; other characters do not count. -/
def hexValue (cs : List Char) : Nat :=
  cs.foldl (fun n c => match hexDigit? c with | some d => n * 16 + d | none => n) 0

/-- Splits at every occurrence of a character. -/
def splitChar (sep : Char) : List Char → List (List Char)
  | [] => [[]]
  | c :: cs =>
    if c = sep then [] :: splitChar sep cs
    else match splitChar sep cs with
      | [] => [[c]]
      | w :: ws => (c :: w) :: ws

/-- The words of the lines of a table. -/
def wordsOf (lines : List String) : List (List Char) :=
  lines.flatMap fun s => (splitChar ' ' s.toList).filter (· ≠ [])

def boundsOfSteps (lines : List String) : Array Nat :=
  ((wordsOf lines).foldl (fun (acc : Nat × Array Nat) w =>
    let n := acc.1 + hexValue w
    (n, acc.2.push n)) (0, #[])).2

/-- The number of entries of an ascending array that are at most `x`, known to lie between `lo` and
`hi`; `fuel` bounds the halvings. -/
def rankBetween (a : Array Nat) (x : Nat) : Nat → Nat → Nat → Nat
  | 0, lo, _ => lo
  | fuel + 1, lo, hi =>
    if lo < hi then
      let mid := (lo + hi) / 2
      if a.getD mid 0 ≤ x then rankBetween a x fuel (mid + 1) hi else rankBetween a x fuel lo mid
    else lo

def rank (a : Array Nat) (x : Nat) : Nat := rankBetween a x 32 0 a.size

def inBounds (a : Array Nat) (x : Nat) : Bool := rank a x % 2 == 1

/-- A number in `width` hexadecimal digits. -/
def hexText (width n : Nat) : String :=
  let digits := Nat.toDigits 16 (n % Nat.pow 16 width)
  String.ofList (List.replicate (width - digits.length) '0' ++ digits)

def hexOfBytes (bytes : List Nat) : String := String.join (bytes.map (hexText 2))

end AwaitLint.Text
