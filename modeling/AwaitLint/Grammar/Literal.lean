import AwaitLint.Grammar.Parser
import AwaitLint.Text.CharacterName
import AwaitLint.Text.Ranges

/-! # String literals

A formatted string is cut into literal pieces and expressions. Nothing of a literal piece is kept,
but its escapes must be well formed. The expressions are handed to a parser as text with the place
of the brace before it.
-/

namespace AwaitLint.Grammar.Literal

/-- A string token taken apart. -/
structure Parts where
  bytes : Bool
  raw : Bool
  formatted : Bool
  body : Cursor
  deriving Repr

def isQuote (c : Char) : Bool := c == '"' || c == '\''

/-- Takes off the letters before the quotes and the quotes. -/
def split (start : Mark) (text : List Char) : Parts :=
  let letters := (text.takeWhile fun c => !isQuote c).map Char.toLower
  let quoted := text.drop letters.length
  let size := match quoted with
    | a :: b :: c :: _ => if a = b ∧ b = c ∧ 6 ≤ quoted.length then 3 else 1
    | _ => 1
  let head := text.take (letters.length + size)
  let body := (quoted.drop size).take (quoted.length - 2 * size)
  ⟨letters.contains 'b', letters.contains 'r', letters.contains 'f', ⟨body, start.advance head⟩⟩

def isHexDigit (c : Char) : Bool := (Text.hexDigit? c).isSome

private def unicodeFault (first last : Nat) (reason : String) : Problem :=
  .badEscape ("(unicode error) 'unicodeescape' codec can't decode bytes in position "
    ++ toString first ++ "-" ++ toString last ++ ": " ++ reason)

/-- The room a character takes in the positions of escape errors. -/
private def escapeWidth (c : Char) : Nat := if c.toNat < 128 then 1 else 10

/-- Checks an escape by code: so many hexadecimal digits, and a code point. -/
private def codeFault (place count : Nat) (reason : String) (cs : List Char) : Option Problem :=
  let digits := (cs.take count).takeWhile isHexDigit
  if digits.length < count then some (unicodeFault place (place + 1 + digits.length) reason)
  else if Text.hexValue digits < 0x110000 then none
  else some (unicodeFault place (place + 1 + count) "illegal Unicode character")

/-- The first escape of a text that is not well formed. `place` is where the text starts; `fuel` bounds
the characters. -/
def escapeFault : Nat → Nat → List Char → Option Problem
  | 0, _, _ => none
  | _, _, [] => none
  | _, _, ['\\'] => none
  | fuel + 1, place, '\\' :: c :: cs =>
    let found := match c with
      | 'x' => codeFault place 2 "truncated \\xXX escape" cs
      | 'u' => codeFault place 4 "truncated \\uXXXX escape" cs
      | 'U' => codeFault place 8 "truncated \\UXXXXXXXX escape" cs
      | 'N' =>
        match cs with
        | '\x7b' :: rest =>
          let name := rest.takeWhile (· != '\x7d')
          let width := (name.map escapeWidth).sum
          if name = [] ∨ rest.length = name.length then
            some (unicodeFault place (place + 2 + width) "malformed \\N character escape")
          else if Text.isCharacterName name then none
          else some (unicodeFault place (place + 3 + width) "unknown Unicode character name")
        | _ => some (unicodeFault place (place + 1) "malformed \\N character escape")
      | _ => none
    match found with
    | some p => some p
    | none => escapeFault fuel (place + 1 + escapeWidth c) cs
  | fuel + 1, place, c :: cs => escapeFault fuel (place + escapeWidth c) cs

/-- The first bad escape of a byte string. -/
def byteEscapeFault : Nat → Nat → List Char → Option Problem
  | 0, _, _ => none
  | _, _, [] => none
  | fuel + 1, place, '\\' :: 'x' :: cs =>
    if ((cs.take 2).takeWhile isHexDigit).length < 2 then
      some (.badEscape ("(value error) invalid \\x escape at position " ++ toString place))
    else byteEscapeFault fuel (place + 2) cs
  | fuel + 1, place, '\\' :: _ :: cs => byteEscapeFault fuel (place + 2) cs
  | fuel + 1, place, _ :: cs => byteEscapeFault fuel (place + 1) cs

/-- What is wrong with a string that is not formatted. -/
def plainFault (p : Parts) : Option Problem :=
  let body := p.body.rest
  if p.bytes then
    if body.any fun c => 128 ≤ c.toNat then some .nonAsciiBytes
    else if p.raw then none
    else byteEscapeFault body.length 0 body
  else if p.raw then none
  else escapeFault body.length 0 body

/-- A literal piece: how many characters it has, how many to pass over, and whether a doubled brace
ended it. -/
structure Piece where
  length : Nat
  skip : Nat
  doubled : Bool

/-- Finds the end of a literal piece. In a format (`nested`) braces are never doubled, and a closing
one ends the format. -/
def piece (raw nested : Bool) : Nat → Nat → List Char → Except Problem Piece
  | 0, n, _ => .ok ⟨n, n, false⟩
  | _, n, [] => .ok ⟨n, n, false⟩
  | fuel + 1, n, c :: cs =>
    let brace (n : Nat) (c : Char) (cs : List Char) : Except Problem Piece :=
      if !nested && cs.head? == some c then .ok ⟨n + 1, n + 2, true⟩
      else if !nested && c == '\x7d' then .error (.formatted ": single '\x7d' is not allowed")
      else .ok ⟨n, n, false⟩
    if !raw && c == '\\' then
      match cs with
      | 'N' :: '\x7b' :: rest =>
        let name := rest.takeWhile (· != '\x7d')
        piece raw nested fuel (n + 3 + min (name.length + 1) rest.length) (rest.drop (name.length + 1))
      | 'N' :: rest => piece raw nested fuel (n + 2 + min 1 rest.length) (rest.drop 1)
      | d :: rest =>
        if d = '\x7b' ∨ d = '\x7d' then brace (n + 1) d rest
        else piece raw nested fuel (n + 2) rest
      | [] => .ok ⟨n + 1, n + 1, false⟩
    else if c = '\x7b' ∨ c = '\x7d' then brace n c cs
    else piece raw nested fuel (n + 1) cs

/-- Finds the end of an expression inside braces. `nest` are the brackets open in it, innermost
first, and `quote` the string it is in, with whether that has three quotes. -/
def expressionLength (nest : List Char) (quote : Option (Char × Bool)) :
    Nat → Nat → List Char → Except Problem Nat
  | 0, n, _ => .ok n
  | _, n, [] =>
    match quote, nest with
    | some _, _ => .error (.formatted ": unterminated string")
    | none, b :: _ => .error (.formatted (": unmatched '" ++ b.toString ++ "'"))
    | none, [] => .ok n
  | fuel + 1, n, c :: cs =>
    let go (nest : List Char) (quote : Option (Char × Bool)) (k : Nat) : Except Problem Nat :=
      expressionLength nest quote fuel (n + k) (cs.drop (k - 1))
    if c = '\\' then .error (.formatted " expression part cannot include a backslash")
    else match quote with
    | some (q, triple) =>
      if c = q then
        if triple then
          match cs with
          | d :: e :: _ => if d = c ∧ e = c then go nest none 3 else go nest quote 1
          | _ => go nest quote 1
        else go nest none 1
      else go nest quote 1
    | none =>
      if isQuote c then
        match cs with
        | d :: e :: _ => if d = c ∧ e = c then go nest (some (c, true)) 3
            else go nest (some (c, false)) 1
        | _ => go nest (some (c, false)) 1
      else if c = '[' ∨ c = '\x7b' ∨ c = '(' then
        if maxNesting ≤ nest.length then .error (.formatted ": too many nested parenthesis")
        else go (c :: nest) none 1
      else if c = '#' then .error (.formatted " expression part cannot include '#'")
      else if nest.isEmpty && (c == '!' || c == ':' || c == '\x7d' || c == '=' || c == '>' || c == '<')
      then
        if cs.head? == some '=' && (c == '!' || c == '=' || c == '<' || c == '>') then go nest none 2
        else if c = '>' ∨ c = '<' then go nest none 1
        else .ok n
      else if c = ']' ∨ c = '\x7d' ∨ c = ')' then
        match nest with
        | [] => .error (.formatted (": unmatched '" ++ c.toString ++ "'"))
        | b :: rest =>
          if (⟨b, default⟩ : Bracket).closes c then go rest none 1
          else .error (.formatted (": closing parenthesis '" ++ c.toString
            ++ "' does not match opening parenthesis '" ++ b.toString ++ "'"))
      else go nest none 1
where
  maxNesting : Nat := 200

private def expectingBrace : Problem := .formatted ": expecting '\x7d'"

/-- A blank in an expression that would otherwise be empty. -/
private def isFiller (c : Char) : Bool := c == ' ' || c == '\t' || c == '\n' || c == '\x0c'

private def isAsciiBlank (c : Char) : Bool := c == ' ' || (decide (9 ≤ c.toNat) && decide (c.toNat ≤ 13))

/-- The mark after an expression that repeats its text, and what follows it. -/
def afterEquals (c : Cursor) : Except Problem Cursor :=
  match c.rest with
  | '=' :: _ =>
    let c := (c.skip 1).skipWhile isAsciiBlank
    if c.rest.isEmpty then .error expectingBrace else .ok c
  | _ => .ok c

def afterConversion (c : Cursor) : Except Problem Cursor :=
  match c.rest with
  | '!' :: d :: _ =>
    if d = 's' ∨ d = 'r' ∨ d = 'a' then .ok (c.skip 2)
    else .error (.formatted ": invalid conversion character: expected 's', 'r', or 'a'")
  | ['!'] => .error expectingBrace
  | _ => .ok c

/-- The text of the expression at a brace, and the cursor after it. -/
def takeExpression (c : Cursor) : Except Problem (List Char × Cursor) :=
  let inner := c.skip 1
  match expressionLength [] none (inner.rest.length + 1) 0 inner.rest with
  | .error p => .error p
  | .ok n =>
    let text := inner.rest.take n
    match (inner.skip n).rest with
    | [] => .error expectingBrace
    | e :: _ =>
      if text.all isFiller then
        .error (.formatted (if e = '\x7d' then ": empty expression not allowed"
          else ": expression required before '" ++ e.toString ++ "'"))
      else .ok (text, inner.skip n)

/-- What is wrong with a formatted string: the string itself, or an expression in it. -/
inductive Flaw (ε : Type)
  | here (problem : Problem)
  | inside (error : ε)

/-- A problem of the string itself, if there is one. -/
def orHere {ε α : Type} : Except Problem α → Except (Flaw ε) α
  | .ok a => .ok a
  | .error problem => .error (.here problem)

theorem orHere_eq_ok {ε α : Type} {x : Except Problem α} {a : α} :
    (orHere x : Except (Flaw ε) α) = .ok a ↔ x = .ok a := by
  cases x <;> simp [orHere]

/-- The expressions of a formatted string. `level` counts the formats around it, of which there may
be one; `fuel` bounds the steps. Returns the nodes and the cursor where the string or the format
ends. -/
def formattedFrom {ε : Type} (parse : Mark → List Char → Except ε Node) (raw : Bool) :
    Nat → Nat → List Node → Cursor → Except (Flaw ε) (List Node × Cursor)
  | 0, _, acc, c => .ok (acc.reverse, c)
  | fuel + 1, level, acc, c =>
    match piece raw (level != 0) (c.rest.length + 1) 0 c.rest with
    | .error p => .error (.here p)
    | .ok p =>
      let text := c.rest.take p.length
      match if raw then none else escapeFault text.length 0 text with
      | some problem => .error (.here problem)
      | none =>
        let c := c.skip p.skip
        if p.doubled then formattedFrom parse raw fuel level acc c
        else match c.rest with
          | '\x7b' :: _ => do
            if 2 ≤ level then .error (.here (.formatted ": expressions nested too deeply"))
            let (text, after) ← orHere (takeExpression c)
            let value ← match parse c.mark text with
              | .ok v => .ok v
              | .error e => .error (.inside e)
            let after ← orHere (afterEquals after)
            let after ← orHere (afterConversion after)
            let (spec, after) ← match after.rest with
              | [':'] => .error (.here expectingBrace)
              | ':' :: _ => do
                let (nodes, after) ← formattedFrom parse raw fuel (level + 1) [] (after.skip 1)
                .ok (Node.operation nodes, after)
              | _ => .ok (Node.absent, after)
            match after.rest with
            | '\x7d' :: _ =>
              formattedFrom parse raw fuel level (.operation [value, spec] :: acc) (after.skip 1)
            | _ => .error (.here expectingBrace)
          | '\x7d' :: _ => .ok (acc.reverse, c)
          | _ => if level = 0 then .ok (acc.reverse, c) else .error (.here expectingBrace)

end AwaitLint.Grammar.Literal
