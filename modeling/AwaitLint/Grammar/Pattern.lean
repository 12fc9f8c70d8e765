import AwaitLint.Grammar.Expression

/-! # Match patterns -/

namespace AwaitLint.Grammar

open AwaitLint.Grammar.Parser

/-- Fails where the next token shows that a name was no capture. -/
def noCaptureSign : Parser Unit := do
  match ← peekKind with
  | .punct .dot | .punct .lparen | .punct .equal => fail
  | _ => return ()

/-- A name to capture with; the low line is none. -/
def captureTarget : Parser String := do
  if ← nextIsWord "_" then fail
  else
    let id ← name
    noCaptureSign
    return id

/-- A number with a sign or without. -/
def signedNumber : Parser NumberForm := do
  let _ ← acceptPunct .minus
  match ← peekKind with
  | .number form =>
    advance
    let _ ← numberLiteral form
    return form
  | _ => fail

/-- The sign and the imaginary part of a sum. -/
def imaginaryPart : Parser Unit := do
  advance
  match ← peekKind with
  | .number .imaginary => advance
  | _ => fail

/-- A number, or the sum of a real and an imaginary one. -/
def numberPattern : Parser Unit := do
  let first ← signedNumber
  match ← peekKind with
  | .punct .plus | .punct .minus =>
    if first = .imaginary then fail else imaginaryPart
  | _ => return ()

/-- A literal that may be matched or looked up, if the next token starts one. -/
def literal? (r : Rules) : Parser (Option Node) := do
  match ← peekKind with
  | .number _ | .punct .minus =>
    numberPattern
    return some .constant
  | .string _ => return some (← strings r)
  | .keyword .none | .keyword .true | .keyword .false =>
    advance
    return some .constant
  | _ => return none

/-- Attributes after a name, with whether there were any. -/
def dotted (x : Node) : Parser (Node × Bool) :=
  loop (fun (acc : Node × Bool) => do
    if ← acceptPunct .dot then return .inl (.attr acc.1 (← name), true)
    else return .inr acc) (x, false)

/-- Tokens that can start a pattern. -/
def startsPattern : TokenKind → Bool
  | .name _ _ | .number _ | .string _ => true
  | .keyword k => k == .none || k == .true || k == .false
  | .punct p => p == .minus || p == .lparen || p == .lbracket || p == .lbrace
  | _ => false

def startsStarPattern (k : TokenKind) : Bool := k == .punct .star || startsPattern k

private def isRest : Node → Bool
  | .captureRest _ => true
  | _ => false

/-- A pattern, or the starred part of a sequence. -/
def maybeStarPattern (r : Rules) : Parser Node := do
  if ← acceptPunct .star then
    if ← nextIsWord "_" then
      advance
      return .captureRest none
    else return .captureRest (some (← captureTarget))
  else r.pattern

/-- Patterns separated by commas; a single one without a comma stands for itself. -/
def openSequence (r : Rules) : Parser Node := do
  match ← commaList startsStarPattern (maybeStarPattern r) with
  | ([p], false) => if isRest p then fail else return p
  | (ps, _) => return .patterns ps

def mappingKey (r : Rules) : Parser Node := do
  match ← literal? r with
  | some k => return k
  | none =>
    let (k, attribute?) ← dotted (.name (← name))
    if attribute? then return k else fail

/-- The items read so far, last first, and the name for the rest. -/
structure MappingItems where
  keys : List Node := []
  parts : List Node := []
  rest : Option String := none

def mappingPattern (r : Rules) : Parser Node := do
  expectPunct .lbrace
  let m ← loop (fun (m : MappingItems) => do
    if ← nextIsPunct .rbrace then return .inr m
    else if ← acceptPunct .doubleStar then
      let id ← captureTarget
      let _ ← acceptPunct .comma
      return .inr { m with rest := some id }
    else
      let key ← mappingKey r
      expectPunct .colon
      let part ← r.pattern
      let m := { m with keys := key :: m.keys, parts := part :: m.parts }
      if ← acceptPunct .comma then return .inl m else return .inr m) {}
  expectPunct .rbrace
  return .mappingPattern m.keys.reverse m.parts.reverse m.rest

/-- The parts of a class pattern, last first. -/
structure ClassParts where
  parts : List Node := []
  attrs : List String := []
  attrParts : List Node := []

/-- The attribute that the next tokens give a pattern for. -/
def partName? : Parser (Option String) := do
  match ← peekKind with
  | .name id _ => return if (← peekSecond).kind == .punct .equal then some id else none
  | _ => return none

/-- One more part of a class pattern. Named parts come last. -/
def classPart (r : Rules) (p : ClassParts) : Parser ClassParts := do
  match ← partName? with
  | some id =>
    advance
    advance
    let x ← r.pattern
    return { p with attrs := id :: p.attrs, attrParts := x :: p.attrParts }
  | none =>
    if p.attrs.isEmpty then
      let x ← r.pattern
      return { p with parts := x :: p.parts }
    else fail

/-- From the opening parenthesis after a class on. -/
def classParts (r : Rules) (cls : Node) : Parser Node := do
  expectPunct .lparen
  let p ← loop (fun (p : ClassParts) => do
    if ← nextIsPunct .rparen then return .inr p
    else
      let p ← classPart r p
      if ← acceptPunct .comma then return .inl p else return .inr p) ({} : ClassParts)
  expectPunct .rparen
  return .classPattern cls p.parts.reverse p.attrs.reverse p.attrParts.reverse

/-- A pattern that starts with a name: a wildcard, a capture, a value or a class. -/
def namePattern (r : Rules) : Parser Node := do
  if ← nextIsWord "_" then
    advance
    return .capture none .absent
  else
    let id ← name
    let (x, attribute?) ← dotted (.name id)
    if ← nextIsPunct .lparen then classParts r x
    else if ← nextIsPunct .equal then fail
    else return if attribute? then .valuePattern x else .capture (some id) .absent

def closedPattern (r : Rules) : Parser Node := do
  match ← literal? r with
  | some .constant => return .constant
  | some x => return .valuePattern x
  | none =>
    match ← peekKind with
    | .name _ _ => namePattern r
    | .punct .lparen =>
      advance
      if ← acceptPunct .rparen then return .patterns []
      else
        let p ← openSequence r
        expectPunct .rparen
        return p
    | .punct .lbracket =>
      advance
      if ← acceptPunct .rbracket then return .patterns []
      else
        let (ps, _) ← commaList startsStarPattern (maybeStarPattern r)
        expectPunct .rbracket
        return .patterns ps
    | .punct .lbrace => mappingPattern r
    | _ => fail

def patternRule (r : Rules) : Parser Node := do
  let first ← closedPattern r
  let p ← loop (fun (acc : List Node) => do
    if ← acceptPunct .vbar then return .inl ((← closedPattern r) :: acc)
    else match acc with
      | [x] => return .inr x
      | xs => return .inr (.patterns xs.reverse)) [first]
  if ← acceptKeyword .as then return .capture (some (← captureTarget)) p else return p

end AwaitLint.Grammar
