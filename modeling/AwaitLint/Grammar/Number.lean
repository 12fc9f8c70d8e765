import AwaitLint.Grammar.Token

/-! # Number literals

The scanners count characters: each takes how many have been read and what follows them.
-/

namespace AwaitLint.Grammar.Number

/-- A fault, and after how many characters it shows. -/
abbrev Fault := Problem × Nat

/-- A character that may stand in a name, going by its ASCII form. -/
def isNameChar (c : Char) : Bool := c.isAlphanum || c == '_' || decide (128 ≤ c.toNat)

/-- Whether a word ends here. -/
def wordEnds (rest : List Char) : Bool := !rest.head?.any isNameChar

/-- What may stand right after a number although a name may go on with it. Two letters are enough to
tell the words that start with `i`. -/
def keywordFollows : List Char → Bool
  | 'a' :: 'n' :: 'd' :: rest => wordEnds rest
  | 'e' :: 'l' :: 's' :: 'e' :: rest => wordEnds rest
  | 'f' :: 'o' :: 'r' :: rest => wordEnds rest
  | 'i' :: 'f' :: _ => true
  | 'i' :: 'n' :: _ => true
  | 'i' :: 's' :: _ => true
  | 'o' :: 'r' :: rest => wordEnds rest
  | 'n' :: 'o' :: 't' :: rest => wordEnds rest
  | _ => false

/-- Checks that the number ends where it was read to. A letter that is not of ASCII starts a name. -/
def ends (base : String) (form : NumberForm) (n : Nat) (rest : List Char) :
    Except Fault (NumberForm × Nat) :=
  match rest with
  | c :: _ =>
    if isNameChar c && decide (c.toNat < 128) && !keywordFollows rest then
      .error (.invalidNumber base, n)
    else .ok (form, n)
  | [] => .ok (form, n)

/-- What is wrong with a character that should be a digit. -/
def notDigit (base : String) (c : Char) (n : Nat) : Fault :=
  if c.isDigit then (.invalidDigit c base, n + 1) else (.invalidNumber base, n)

/-- Digits with single low lines between them. -/
def digits (base : String) (isDigit : Char → Bool) : Nat → List Char → Except Fault (Nat × List Char)
  | n, '_' :: c :: cs =>
    if isDigit c then digits base isDigit (n + 2) cs else .error (notDigit base c (n + 1))
  | n, c :: cs => if isDigit c then digits base isDigit (n + 1) cs else .ok (n, c :: cs)
  | n, [] => .ok (n, [])

def decimalDigits : Nat → List Char → Except Fault (Nat × List Char) :=
  digits "decimal" Char.isDigit

/-- The digits of a number in another base, after its mark. A low line may come first. -/
def based (base : String) (isDigit : Char → Bool) (n : Nat) (cs : List Char) :
    Except Fault (Nat × List Char) :=
  match cs with
  | '_' :: _ => digits base isDigit n cs
  | c :: _ => if isDigit c then digits base isDigit n cs else .error (notDigit base c n)
  | [] => .error (.invalidNumber base, n)

/-- What follows the last digit of a number in another base. -/
def basedEnd (base : String) (n : Nat) (rest : List Char) : Except Fault (NumberForm × Nat) :=
  match rest with
  | c :: _ => if c.isDigit then .error (.invalidDigit c base, n + 1) else ends base .real n rest
  | [] => .ok (.real, n)

def imaginaryEnd (n : Nat) (rest : List Char) : Except Fault (NumberForm × Nat) :=
  ends "imaginary" .imaginary n rest

/-- After the digits of an exponent, or after a fraction: an imaginary mark or the end. -/
def realEnd (form : NumberForm) (n : Nat) (rest : List Char) : Except Fault (NumberForm × Nat) :=
  match rest with
  | 'j' :: cs => imaginaryEnd (n + 1) cs
  | 'J' :: cs => imaginaryEnd (n + 1) cs
  | _ => ends "decimal" form n rest

/-- From the letter of an exponent on. A letter that no digit follows must start a keyword. -/
def exponent (form : NumberForm) (n : Nat) (letter : Char) (cs : List Char) :
    Except Fault (NumberForm × Nat) :=
  match cs with
  | c :: d :: ds =>
    if c = '+' ∨ c = '-' then
      if d.isDigit then do
        let (n, rest) ← decimalDigits (n + 3) ds
        realEnd .real n rest
      else .error (.invalidNumber "decimal", n + 2)
    else if c.isDigit then do
      let (n, rest) ← decimalDigits (n + 2) (d :: ds)
      realEnd .real n rest
    else ends "decimal" form n (letter :: cs)
  | _ => ends "decimal" form n (letter :: cs)

/-- After the point, or after the digits before it. -/
def fractionEnd (form : NumberForm) (n : Nat) (rest : List Char) :
    Except Fault (NumberForm × Nat) :=
  match rest with
  | 'e' :: cs => exponent form n 'e' cs
  | 'E' :: cs => exponent form n 'E' cs
  | _ => realEnd form n rest

def fraction (n : Nat) (rest : List Char) : Except Fault (NumberForm × Nat) :=
  match rest with
  | c :: cs =>
    if c.isDigit then do
      let (n, rest) ← decimalDigits (n + 1) cs
      fractionEnd .real n rest
    else fractionEnd .real n rest
  | [] => .ok (.real, n)

/-- How many decimal digits an integer may have. -/
def digitLimit : Nat := 4300

def decimalForm (cs : List Char) (n : Nat) : NumberForm :=
  let count := ((cs.take n).filter Char.isDigit).length
  if digitLimit < count then .oversized count else .real

/-- After the digits before a point. -/
def wholeEnd (all : List Char) (n : Nat) (rest : List Char) : Except Fault (NumberForm × Nat) :=
  match rest with
  | '.' :: cs => fraction (n + 1) cs
  | _ => fractionEnd (decimalForm all n) n rest

/-- Zeros with single low lines between them. -/
def zeros : Nat → List Char → Except Fault (Nat × List Char)
  | n, '_' :: c :: cs =>
    if c = '0' then zeros (n + 2) cs
    else if c.isDigit then .ok (n + 1, c :: cs)
    else .error (.invalidNumber "decimal", n + 1)
  | n, c :: cs => if c = '0' then zeros (n + 1) cs else .ok (n, c :: cs)
  | n, [] => .ok (n, [])

/-- A number that starts with zeros: an integer only if nothing but zeros follows. -/
def zeroLed (all : List Char) (cs : List Char) : Except Fault (NumberForm × Nat) := do
  let (n, rest) ← zeros 1 cs
  match rest with
  | c :: ds =>
    if c.isDigit then
      let (n, rest) ← decimalDigits (n + 1) ds
      match rest with
      | '.' :: _ => wholeEnd all n rest
      | 'e' :: _ => wholeEnd all n rest
      | 'E' :: _ => wholeEnd all n rest
      | 'j' :: _ => wholeEnd all n rest
      | 'J' :: _ => wholeEnd all n rest
      | _ => .error (.leadingZeros, 1)
    else wholeEnd all n rest
  | [] => .ok (.real, n)

def isHex (c : Char) : Bool :=
  c.isDigit || (decide ('a' ≤ c) && decide (c ≤ 'f')) || (decide ('A' ≤ c) && decide (c ≤ 'F'))

def isOctal (c : Char) : Bool := decide ('0' ≤ c) && decide (c ≤ '7')

def isBinary (c : Char) : Bool := c == '0' || c == '1'

def inBase (base : String) (isDigit : Char → Bool) (cs : List Char) :
    Except Fault (NumberForm × Nat) := do
  let (n, rest) ← based base isDigit 2 cs
  basedEnd base n rest

/-- Reads a number whose first character is a digit, or a point that a digit follows. -/
def read (all : List Char) : Except Fault (NumberForm × Nat) :=
  match all with
  | '.' :: cs => fraction 1 cs
  | '0' :: 'x' :: cs => inBase "hexadecimal" isHex cs
  | '0' :: 'X' :: cs => inBase "hexadecimal" isHex cs
  | '0' :: 'o' :: cs => inBase "octal" isOctal cs
  | '0' :: 'O' :: cs => inBase "octal" isOctal cs
  | '0' :: 'b' :: cs => inBase "binary" isBinary cs
  | '0' :: 'B' :: cs => inBase "binary" isBinary cs
  | '0' :: cs => zeroLed all cs
  | _ :: cs => do
    let (n, rest) ← decimalDigits 1 cs
    wholeEnd all n rest
  | [] => .ok (.real, 0)

end AwaitLint.Grammar.Number
