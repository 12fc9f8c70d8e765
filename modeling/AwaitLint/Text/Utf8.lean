/-! # UTF-8 -/

namespace AwaitLint.Text

/-- The number of bytes of a character. -/
def byteLength (c : Char) : Nat :=
  let n := c.toNat
  if n < 0x80 then 1 else if n < 0x800 then 2 else if n < 0x10000 then 3 else 4

/-- The number of bytes of a text. -/
def byteCount (cs : List Char) : Nat := cs.foldr (fun c n => byteLength c + n) 0

/-- The bytes of a character. -/
def encodeChar (c : Char) : List Nat :=
  let n := c.toNat
  if n < 0x80 then [n]
  else if n < 0x800 then [0xC0 + n / 64, 0x80 + n % 64]
  else if n < 0x10000 then [0xE0 + n / 4096, 0x80 + n / 64 % 64, 0x80 + n % 64]
  else [0xF0 + n / 262144, 0x80 + n / 4096 % 64, 0x80 + n / 64 % 64, 0x80 + n % 64]

def encode (cs : List Char) : List Nat := cs.flatMap encodeChar

/-- Why bytes are not a text: the first bad byte or bytes and what is wrong with them. -/
inductive DecodeFault
  | invalidStart (byte position : Nat)
  | invalidContinuation (byte position count : Nat)
  | unexpectedEnd (byte position count : Nat)
  deriving DecidableEq, Repr

private def hexByte (n : Nat) : String :=
  String.ofList ((Nat.toDigits 16 (n / 16)) ++ Nat.toDigits 16 (n % 16))

private def badBytes (byte position count : Nat) : String :=
  "'utf-8' codec can't decode " ++
    (if count ≤ 1 then "byte 0x" ++ hexByte byte ++ " in position " ++ toString position
     else "bytes in position " ++ toString position ++ "-" ++ toString (position + count - 1))

def DecodeFault.message : DecodeFault → String
  | invalidStart byte position => badBytes byte position 1 ++ ": invalid start byte"
  | invalidContinuation byte position count =>
      badBytes byte position count ++ ": invalid continuation byte"
  | unexpectedEnd byte position count =>
      badBytes byte position count ++ ": unexpected end of data"

/-- How many bytes follow a first byte, and the range of the second one; `none` if no character
starts so. -/
def leadByte? (b : Nat) : Option (Nat × Nat × Nat) :=
  if 0xC2 ≤ b ∧ b ≤ 0xDF then some (1, 0x80, 0xBF)
  else if b = 0xE0 then some (2, 0xA0, 0xBF)
  else if b = 0xED then some (2, 0x80, 0x9F)
  else if 0xE1 ≤ b ∧ b ≤ 0xEF then some (2, 0x80, 0xBF)
  else if b = 0xF0 then some (3, 0x90, 0xBF)
  else if 0xF1 ≤ b ∧ b ≤ 0xF3 then some (3, 0x80, 0xBF)
  else if b = 0xF4 then some (3, 0x80, 0x8F)
  else none

/-- Reads `more` bytes of a character, the next of them between `lo` and `hi`. Returns the code
point with the rest, or the number of good bytes and whether the data ended. -/
def readTail (code good : Nat) : Nat → Nat → Nat → List Nat → Except (Nat × Bool) (Nat × List Nat)
  | 0, _, _, bytes => .ok (code, bytes)
  | _ + 1, _, _, [] => .error (good, true)
  | more + 1, lo, hi, b :: bytes =>
    if lo ≤ b ∧ b ≤ hi then readTail (code * 64 + b % 64) (good + 1) more 0x80 0xBF bytes
    else .error (good, false)

/-- Decodes bytes from a position on; `fuel` bounds the number of characters. -/
def decodeFrom : Nat → Nat → List Char → List Nat → Except DecodeFault (List Char)
  | 0, _, acc, _ => .ok acc.reverse
  | _, _, acc, [] => .ok acc.reverse
  | fuel + 1, position, acc, b :: bytes =>
    if b < 0x80 then decodeFrom fuel (position + 1) (Char.ofNat b :: acc) bytes
    else match leadByte? b with
      | none => .error (.invalidStart b position)
      | some (more, lo, hi) =>
        let lead := b % (if more = 1 then 32 else if more = 2 then 16 else 8)
        match readTail lead 1 more lo hi bytes with
        | .ok (code, rest) => decodeFrom fuel (position + more + 1) (Char.ofNat code :: acc) rest
        | .error (good, true) => .error (.unexpectedEnd b position good)
        | .error (good, false) => .error (.invalidContinuation b position good)

def decode (bytes : List Nat) : Except DecodeFault (List Char) :=
  decodeFrom (bytes.length + 1) 0 [] bytes

end AwaitLint.Text
