import AwaitLint.Json.Basic
import AwaitLint.Text.Ranges

/-! # Reading JSON

A text that is no JSON gives the position, in characters, at which it goes wrong. The words for
infinities and for no number are read too.
-/

namespace AwaitLint.Json

/-- What is left of a text, and how much has been read. -/
structure Input where
  rest : List Char
  pos : Nat

namespace Input

def drop (i : Input) (n : Nat) : Input := ⟨i.rest.drop n, i.pos + n⟩

def isBlank (c : Char) : Bool := c == ' ' || c == '\t' || c == '\n' || c == '\r'

def blanks (i : Input) : Input := i.drop (i.rest.takeWhile isBlank).length

def startsWith (i : Input) (word : List Char) : Bool := i.rest.take word.length == word

end Input

/-- A result with the rest, or the position of the error. -/
abbrev Read (α : Type) := Except Nat (α × Input)

def unitOf? (cs : List Char) : Option Nat :=
  let digits := cs.take 4
  if digits.length = 4 ∧ digits.all (fun c => (Text.hexDigit? c).isSome) then
    some (Text.hexValue digits)
  else none

def simpleEscape? : Char → Option Char
  | '"' => some '"'
  | '\\' => some '\\'
  | '/' => some '/'
  | 'b' => some '\x08'
  | 'f' => some '\x0c'
  | 'n' => some '\n'
  | 'r' => some '\r'
  | 't' => some '\t'
  | _ => none

/-- The second half of a pair of units, if it follows. -/
def lowSurrogate? (cs : List Char) : Option Nat :=
  match cs with
  | '\\' :: 'u' :: rest =>
    match unitOf? rest with
    | some n => if 0xDC00 ≤ n ∧ n ≤ 0xDFFF then some n else none
    | none => none
  | _ => none

/-- The characters of a string up to the closing quote; `start` is where it began, and `fuel` bounds
the characters. -/
def stringBody (start : Nat) : Nat → List Char → Input → Read String
  | 0, _, _ => .error start
  | fuel + 1, acc, i =>
    match i.rest with
    | [] => .error start
    | '"' :: _ => .ok (String.ofList acc.reverse, i.drop 1)
    | '\\' :: [] => .error start
    | '\\' :: 'u' :: rest =>
      match unitOf? rest with
      | none => .error (i.pos + 1)
      | some n =>
        if rest.length ≤ 4 then .error (i.pos + 1)
        else
          let i := i.drop 6
          match if 0xD800 ≤ n ∧ n ≤ 0xDBFF then lowSurrogate? i.rest else none with
          | some low =>
            let c := Char.ofNat (0x10000 + (n - 0xD800) * 1024 + (low - 0xDC00))
            stringBody start fuel (c :: acc) (i.drop 6)
          | none => stringBody start fuel (Char.ofNat n :: acc) i
    | '\\' :: c :: _ =>
      match simpleEscape? c with
      | some d => stringBody start fuel (d :: acc) (i.drop 2)
      | none => .error i.pos
    | c :: _ => if c.toNat < 32 then .error i.pos else stringBody start fuel (c :: acc) (i.drop 1)

/-- From an opening quote on. -/
def readString (fuel : Nat) (i : Input) : Read String := stringBody i.pos fuel [] (i.drop 1)

def digitValue (cs : List Char) : Nat := cs.foldl (fun n c => n * 10 + (c.toNat - 48)) 0

/-- The digits before a fraction; a zero in front stands alone. -/
def wholeDigits (cs : List Char) : List Char :=
  match cs with
  | '0' :: _ => ['0']
  | cs => cs.takeWhile Char.isDigit

/-- The digits of a fraction, if a point and a digit follow. -/
def fractionDigits (cs : List Char) : List Char :=
  match cs with
  | '.' :: rest => rest.takeWhile Char.isDigit
  | _ => []

/-- The length and the value of an exponent, if one follows. -/
def exponent? (cs : List Char) : Option (Nat × Int) :=
  match cs with
  | e :: rest =>
    if e = 'e' ∨ e = 'E' then
      let (sign, signLength, rest) := match rest with
        | '-' :: r => (-1, 1, r)
        | '+' :: r => (1, 1, r)
        | r => ((1 : Int), 0, r)
      let digits := rest.takeWhile Char.isDigit
      if digits.isEmpty then none
      else some (1 + signLength + digits.length, sign * digitValue digits)
    else none
  | [] => none

/-- A number, if one starts here. -/
def readNumber? (i : Input) : Option (Json × Input) :=
  let negative := i.rest.head? == some '-'
  let start := if negative then i.rest.drop 1 else i.rest
  let whole := wholeDigits start
  if whole.isEmpty then none
  else
    let used := whole.length + (if negative then 1 else 0)
    let after := start.drop whole.length
    let fraction := fractionDigits after
    let after := if fraction.isEmpty then after else after.drop (fraction.length + 1)
    let used := if fraction.isEmpty then used else used + fraction.length + 1
    match exponent? after with
    | some (n, e) =>
      some (.float (.ofDecimal negative (digitValue (whole ++ fraction)) (e - fraction.length)),
        i.drop (used + n))
    | none =>
      if fraction.isEmpty then
        let n : Int := digitValue whole
        some (.int (if negative then -n else n), i.drop used)
      else
        some (.float (.ofDecimal negative (digitValue (whole ++ fraction)) (-fraction.length)),
          i.drop used)

def words : List (String × Json) :=
  [("null", .null), ("true", .bool true), ("false", .bool false), ("NaN", .float .nan),
    ("Infinity", .float (.infinite false)), ("-Infinity", .float (.infinite true))]

mutual

/-- A value. `fuel` bounds the nesting, the number of items and the length of strings. -/
def readValue : Nat → Input → Read Json
  | 0, i => .error i.pos
  | fuel + 1, i =>
    match i.rest with
    | '"' :: _ =>
      match readString fuel i with
      | .ok (s, i) => .ok (.str s, i)
      | .error e => .error e
    | '[' :: _ =>
      let i := (i.drop 1).blanks
      match i.rest with
      | ']' :: _ => .ok (.arr [], i.drop 1)
      | _ => readItems fuel [] i
    | '\x7b' :: _ =>
      let i := (i.drop 1).blanks
      match i.rest with
      | '\x7d' :: _ => .ok (.obj [], i.drop 1)
      | _ => readFields fuel [] i
    | _ =>
      match words.find? fun w => i.startsWith w.1.toList with
      | some (w, v) => .ok (v, i.drop w.length)
      | none =>
        match readNumber? i with
        | some r => .ok r
        | none => .error i.pos

/-- The items of an array, last first. -/
def readItems : Nat → List Json → Input → Read Json
  | 0, _, i => .error i.pos
  | fuel + 1, acc, i =>
    match readValue fuel i with
    | .error e => .error e
    | .ok (v, i) =>
      let i := i.blanks
      match i.rest with
      | ']' :: _ => .ok (.arr (v :: acc).reverse, i.drop 1)
      | ',' :: _ => readItems fuel (v :: acc) (i.drop 1).blanks
      | _ => .error i.pos

/-- The fields of an object; a repeated one keeps its place and takes the new value. -/
def readFields : Nat → List (String × Json) → Input → Read Json
  | 0, _, i => .error i.pos
  | fuel + 1, acc, i =>
    match i.rest with
    | '"' :: _ =>
      match readString fuel i with
      | .error e => .error e
      | .ok (key, i) =>
        let i := i.blanks
        match i.rest with
        | ':' :: _ =>
          match readValue fuel (i.drop 1).blanks with
          | .error e => .error e
          | .ok (v, i) =>
            let i := i.blanks
            match i.rest with
            | '\x7d' :: _ => .ok (.obj (setField acc key v), i.drop 1)
            | ',' :: _ => readFields fuel (setField acc key v) (i.drop 1).blanks
            | _ => .error i.pos
        | _ => .error i.pos
    | _ => .error i.pos

end

/-- Reads a whole text. -/
def read (text : List Char) : Except Nat Json :=
  match readValue (2 * text.length + 4) (Input.blanks ⟨text, 0⟩) with
  | .error e => .error e
  | .ok (v, i) =>
    let i := i.blanks
    if i.rest.isEmpty then .ok v else .error i.pos

end AwaitLint.Json
