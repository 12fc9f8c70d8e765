import AwaitLint.Grammar.Diagnosis.Patterns

/-! # What is wrong with a text

A text that does not match is read again, with the alternatives that match mistakes. Where none does,
the last token read the first time is the wrong one.
-/

namespace AwaitLint.Grammar.Diagnosis

def Rule.body : Rule → Peg
  | .expression r => r.body
  | .statement r => r.body
  | .pattern r => r.body

def Rule.isRemembered : Rule → Bool
  | .expression r => r.isRemembered
  | .statement r => r.isRemembered
  | .pattern r => r.isRemembered

/-- The number of brackets that are open after each token. -/
def bracketLevels (tokens : List Token) : Array Nat :=
  (tokens.foldl (fun (acc : Nat × Array Nat) t =>
    let level := match t.kind with
      | .punct .lparen | .punct .lbracket | .punct .lbrace => acc.1 + 1
      | .punct .rparen | .punct .rbracket | .punct .rbrace => acc.1 - 1
      | _ => acc.1
    (level, acc.2.push level)) (0, #[])).2

/-- One reading of a text. -/
def attempt (s : Source) (start : Rule) (checking : Bool) : Reply × Progress :=
  run s Rule.body Rule.isRemembered (200 * s.tokens.size + 2000) (.call start) 0
    { memory := Array.replicate (s.tokens.size + 1) [], checking := checking }

/-- The error that is reported for an error found while parsing: a pressing fault in the rest of the
text, or a bracket opened on an earlier line and never closed, comes first. -/
def settle (s : Source) (far : Nat) (e : ParseError) : ParseError :=
  match s.lexed.ending with
  | .fault f true => f
  | .finished => e
  | _ =>
    match s.lexed.brackets, s.tokens[far]? with
    | b :: _, some t => if b.mark.line < t.start.line then b.neverClosed else e
    | _, _ => e

/-- The error at the last token read, and whether it comes from splitting the text into tokens. -/
def lastResort (s : Source) (last far : Nat) : ParseError × Bool :=
  match s.tokens[last]? with
  | none => (Source.endError s.lexed, true)
  | some t =>
    match t.kind with
    | .indent => (s.errorAfter last .unexpectedIndent, false)
    | .dedent => (s.errorAfter last .unexpectedUnindent, false)
    | _ => (settle s far (s.error (s.start t) .invalidSyntax), false)

/-- What is wrong, if anything is. -/
def fault? (s : Source) (start : Rule) : Option (ParseError × Bool) :=
  match attempt s start false with
  | (.found _ _, _) => none
  | (.error e true, _) => some (e, true)
  | (.error e false, p) => some (settle s p.far e, false)
  | (.missing, first) =>
    match attempt s start true with
    | (.error e true, _) => some (e, true)
    | (.error e false, p) => some (settle s p.far e, false)
    | (_, p) => some (lastResort s first.far p.far)

/-! ## Strings -/

/-- Finds what is wrong with an expression in a string: given where the string and the brace start,
and the text inside the braces. -/
abbrev Inspection := Mark → Mark → List Char → Option (ParseError × Bool)

/-- What is wrong with one string. -/
def literalFault (inspect : Inspection) (start : Mark) (text : List Char) : Option StringFault :=
  let parse (brace : Mark) (text : List Char) : Except (ParseError × Bool) Node :=
    match inspect start brace text with
    | some flaw => .error flaw
    | none => .ok .absent
  let p := Literal.split start text
  if p.formatted then
    match Literal.formattedFrom parse p.raw (p.body.rest.length + 2) 0 [] p.body with
    | .ok _ => none
    | .error (.here problem) => some (.after problem)
    | .error (.inside (e, lexical)) => some (.inside e lexical)
  else (Literal.plainFault p).map fun problem =>
    if problem = .nonAsciiBytes then .at start problem else .after problem

/-- What is wrong with strings that follow each other. -/
def rowFault (inspect : Inspection) (row : List Token) : Option StringFault :=
  let texts := row.filterMap fun t => match t.kind with
    | .string text => some (t.start, text)
    | _ => none
  match texts.findSome? fun (start, text) => literalFault inspect start text with
  | some fault => some fault
  | none =>
    let bytes := texts.map fun (start, text) => (Literal.split start text).bytes
    if bytes.any (·) && bytes.any (!·) then some (.after .mixedBytes) else none

def sourceOf (l : Lexed) (manner : Manner) (inspect : Inspection) : Source :=
  ⟨l.tokens.toArray, bracketLevels l.tokens, l, manner, rowFault inspect⟩

/-- Columns in an expression inside a string are counted from the brace on its own line. On later
lines the column of the brace in bytes is taken off, or that of the string if the line ends after the
brace. -/
def innerManner (string brace : Mark) (text : List Char) : Manner where
  column := column
  start t := column t.start
  reach t := column t.start
  problem := .inFormatted
where
  endsLine : Bool := (text.dropWhile isIndentation).head? == some '\n'
  shift : Nat :=
    if !endsLine then brace.byte else if string.line = brace.line then string.byte else 0
  column (m : Mark) : Nat :=
    if m.line = brace.line then m.char + 1 - brace.char else m.byte + 1 - shift

/-- The tokens of an expression inside a string. A fault on the line of the brace is counted from
there, zeros in front of a number in bytes. -/
def lexInside (brace : Mark) (text : List Char) : Lexed :=
  let l := lexAt brace (['('] ++ text ++ [')', '\n'])
  match l.ending with
  | .fault e pressing =>
    let before := if e.problem = .leadingZeros then brace.byte else brace.char
    if e.line = brace.line then
      { l with ending := .fault { e with column := e.column - before } pressing }
    else l
  | _ => l

/-- What is wrong with an expression inside a string; `depth` bounds the nesting. -/
def inspect : Nat → Inspection
  | 0 => fun _ _ _ => none
  | depth + 1 => fun string brace text =>
    fault? (sourceOf (lexInside brace text) (innerManner string brace text) (inspect depth))
      (.expression .starExpressions)

/-- In a whole text columns are counted in characters, on a line that goes on from a string or a joined
line before it as on any other. -/
def plainManner : Manner where
  column m := m.char + 1
  start t := t.column
  reach t := t.reach
  problem := id

/-- What is wrong with a whole text; `depth` bounds the nesting of strings. -/
def ofText (l : Lexed) (depth : Nat) : ParseError :=
  match fault? (sourceOf l plainManner (inspect depth)) (.statement .file) with
  | some (e, _) => e
  | none => ⟨1, 0, .invalidSyntax⟩

end AwaitLint.Grammar.Diagnosis
