import AwaitLint.Grammar.Number
import AwaitLint.Text.Identifier
import AwaitLint.Text.Printable
import AwaitLint.Text.Normal

/-! # Splitting a text into tokens

Indentation is measured twice, with tabs as wide as eight and as wide as one; both must agree on
every comparison. Inside brackets line ends and indentation do not count.
-/

namespace AwaitLint.Grammar

/-- All line ends become `\n`, and the last line has one. -/
def normalizeLineEnds : List Char → List Char
  | [] => []
  | '\r' :: '\n' :: cs => '\n' :: normalizeLineEnds cs
  | '\r' :: cs => '\n' :: normalizeLineEnds cs
  | c :: cs => c :: normalizeLineEnds cs

def completeLines (cs : List Char) : List Char :=
  let text := normalizeLineEnds cs
  if text.getLast? = some '\n' then text else text ++ ['\n']

/-- A level of indentation, measured both ways. -/
structure Indent where
  wide : Nat
  narrow : Nat
  deriving DecidableEq, Repr

namespace Indent

def zero : Indent := ⟨0, 0⟩

/-- The measure after one more blank; a form feed starts again. -/
def step (i : Indent) (c : Char) : Indent :=
  if c = ' ' then ⟨i.wide + 1, i.narrow + 1⟩
  else if c = '\t' then ⟨(i.wide / 8 + 1) * 8, i.narrow + 1⟩
  else zero

end Indent

def isIndentation (c : Char) : Bool := c == ' ' || c == '\t' || c == '\x0c'

/-- The state of the lexer. `line` is what was left at the start of the current line, `before` how
many characters of earlier lines belong to the same stretch of continued lines, `lastWidth` how many
characters the line before had, and `comment` where the comment of the current line starts. -/
structure LexState where
  cursor : Cursor
  line : List Char
  before : Nat := 0
  lastWidth : Nat := 0
  comment : Option Nat := none
  lineStart : Bool := true
  indents : List Indent := [Indent.zero]
  brackets : List Bracket := []

/-- The most brackets and the most levels of indentation that may be open. -/
def maxBrackets : Nat := 200
def maxIndents : Nat := 100

namespace LexState

def mark (s : LexState) : Mark := s.cursor.mark

/-- The characters of the current line. -/
def lineText (s : LexState) : List Char := s.line.takeWhile (· != '\n')

/-- Moves within the current line. -/
def move (s : LexState) (n : Nat) : LexState := { s with cursor := s.cursor.skip n }

/-- Moves over a line end. Within a token or after a continuation mark the lines belong together. -/
def nextLine (s : LexState) (continued : Bool) : LexState :=
  let c := s.cursor.skip 1
  { s with
    cursor := c
    line := c.rest
    before := if continued then s.before + s.lineText.length + 1 else 0
    lastWidth := s.lineText.length }

/-- The place for errors at the end of the text. -/
def endPlace (s : LexState) : Nat × Nat := (s.mark.line - 1, s.lastWidth + 1)

/-- The column for a character that should not follow a continuation mark, counted from the first of
the lines that belong together. -/
def continuationColumn (s : LexState) : Nat := s.before + s.mark.char + 1

end LexState

/-- One step of the lexer: tokens with the next state, or the end. -/
inductive LexStep
  | next (tokens : List Token) (state : LexState)
  | done (tokens : List Token) (ending : Ending)

namespace LexState

/-- A token from the state's place to another. -/
def token (s : LexState) (kind : TokenKind) (stop : Mark) : Token :=
  ⟨kind, s.mark, stop, s.mark.char + 1, s.mark.char + 1⟩

/-- A token of `n` characters on one line. -/
def emit (s : LexState) (kind : TokenKind) (n : Nat) : LexStep :=
  let s' := s.move n
  .next [s.token kind s'.mark] s'

/-- A fault that shows after `n` characters. -/
def faultAfter (s : LexState) (n : Nat) (problem : Problem) : LexStep :=
  .done [] (.fault ⟨s.mark.line, s.mark.char + n, problem⟩ true)

/-- A fault that a number shows. For zeros in front of it bytes are counted. -/
def numberFault (s : LexState) (n : Nat) (problem : Problem) : LexStep :=
  let before := if problem = .leadingZeros then s.mark.byte else s.mark.char
  .done [] (.fault ⟨s.mark.line, before + n, problem⟩ true)

/-- Tokens without text. -/
def structural (s : LexState) (kinds : List TokenKind) (line reach : Nat) : List Token :=
  let mark := { s.mark with line := line }
  kinds.map fun k => ⟨k, mark, mark, 0, reach⟩

/-- The end of the text, where all indentation is taken back. -/
def atEnd (s : LexState) : LexStep :=
  match s.brackets with
  | _ :: _ => .done [] .insideBrackets
  | [] =>
    let (line, reach) := s.endPlace
    let kinds := List.replicate (s.indents.length - 1) .dedent ++ [.endmarker]
    .done (s.structural kinds line reach) .finished

/-- From a backslash on: the next line goes on with this one. -/
def continueLine (s : LexState) : Except LexStep LexState :=
  let s := s.move 1
  match s.cursor.rest with
  | '\n' :: rest =>
    let s := s.nextLine true
    match rest with
    | [] =>
      let (line, column) := s.endPlace
      .error (.done [] (if s.brackets.isEmpty then .fault ⟨line, column, .unexpectedEnd⟩ false
        else .insideBrackets))
    | _ => .ok s
  | _ => .error (.done [] (.fault ⟨s.mark.line, s.continuationColumn, .afterContinuation⟩ false))

/-- Reads the blanks at the start of a line. The first continuation mark among them fixes the
measure. `fuel` bounds the characters. -/
def indentation : Nat → Option Nat → Indent → LexState → Except LexStep (Indent × LexState)
  | 0, _, i, s => .ok (i, s)
  | fuel + 1, fixed, i, s =>
    match s.cursor.rest with
    | c :: _ =>
      if isIndentation c then indentation fuel fixed (i.step c) (s.move 1)
      else if c = '\\' then
        let fixed := match fixed with
          | some n => if n = 0 then some i.wide else some n
          | none => some i.wide
        match s.continueLine with
        | .ok s => indentation fuel fixed i { s with before := 0 }
        | .error e => .error e
      else .ok (settle fixed i, s)
    | [] => .ok (settle fixed i, s)
where
  settle (fixed : Option Nat) (i : Indent) : Indent :=
    match fixed with
    | some n => if n = 0 then i else ⟨n, n⟩
    | none => i

def wholeLineFault (s : LexState) (problem : Problem) : LexStep :=
  .done [] (.fault ⟨s.mark.line, s.lineText.length + 1, problem⟩ false)

def firstColumnFault (s : LexState) (problem : Problem) : LexStep :=
  .done [] (.fault ⟨s.mark.line, 1, problem⟩ false)

/-- Compares the indentation of a line with the levels that are open. -/
def indented (s : LexState) (i : Indent) : LexStep :=
  let s := { s with lineStart := false }
  let current := s.indents.headD Indent.zero
  if i.wide = current.wide then
    if i.narrow = current.narrow then .next [] s else s.firstColumnFault .mixedTabs
  else if current.wide < i.wide then
    if maxIndents ≤ s.indents.length then s.firstColumnFault .tooDeep
    else if i.narrow ≤ current.narrow then s.firstColumnFault .mixedTabs
    else .next (s.structural [.indent] s.mark.line s.mark.char)
      { s with indents := i :: s.indents }
  else
    let indents := s.indents.dropWhile fun j => decide (i.wide < j.wide)
    let current := indents.headD Indent.zero
    if i.wide ≠ current.wide then s.wholeLineFault .unindentMismatch
    else if i.narrow ≠ current.narrow then s.firstColumnFault .mixedTabs
    else
      let n := s.indents.length - indents.length
      .next (s.structural (List.replicate n .dedent) s.mark.line s.mark.char)
        { s with indents := indents }

/-- The start of a line: blank lines and comments are passed over. -/
def startLine (fuel : Nat) (s : LexState) : LexStep :=
  match indentation fuel none Indent.zero s with
  | .error e => e
  | .ok (i, s) =>
    match s.cursor.rest with
    | [] => s.atEnd
    | c :: _ =>
      if c = '#' ∨ c = '\n' then
        let s := { s with cursor := s.cursor.skipWhile (· != '\n') }
        .next [] (s.nextLine false)
      else if s.brackets.isEmpty then s.indented i
      else .next [] { s with lineStart := false }

/-- The letters that may stand before the quote of a string. -/
def opensString (word : List Char) : Bool :=
  match word.map Char.toLower with
  | ['b'] | ['r'] | ['u'] | ['f'] | ['b', 'r'] | ['r', 'b'] | ['f', 'r'] | ['r', 'f'] => true
  | _ => false

/-- Goes through a string after its opening quotes; `run` counts closing quotes, `size` is one or
three. Returns how many characters it takes, or `none` if it does not end. -/
def stringLength (quote : Char) (size : Nat) : Nat → Nat → List Char → Option Nat
  | run, n, cs =>
    if run = size then some n
    else match cs with
      | [] => none
      | c :: cs =>
        if c = '\n' ∧ size = 1 then none
        else if c = quote then stringLength quote size (run + 1) (n + 1) cs
        else if c = '\\' then
          match cs with
          | [] => none
          | _ :: cs => stringLength quote size 0 (n + 2) cs
        else stringLength quote size 0 (n + 1) cs

/-- The line on which a string that does not end was given up. -/
def abandonedLine (size : Nat) : Nat → List Char → Nat
  | line, [] => line - 1
  | line, '\\' :: '\n' :: cs => abandonedLine size (line + 1) cs
  | line, '\\' :: _ :: cs => abandonedLine size line cs
  | line, '\n' :: cs => if size = 1 then line else abandonedLine size (line + 1) cs
  | line, _ :: cs => abandonedLine size line cs

/-- Passes over the characters of a string, which may span lines. -/
def passString : Nat → LexState → LexState
  | 0, s => s
  | n + 1, s =>
    match s.cursor.rest with
    | '\n' :: _ => passString n (s.nextLine true)
    | _ => passString n (s.move 1)

/-- A string whose opening quote comes after `before` characters. -/
def stringToken (s : LexState) (before : Nat) (quote : Char) : LexStep :=
  let (size, body, used) := match s.cursor.rest.drop (before + 1) with
    | a :: b :: rest =>
      if a = quote ∧ b = quote then (3, rest, before + 3)
      else (1, a :: b :: rest, before + 1)
    | rest => (1, rest, before + 1)
  match stringLength quote size 0 0 body with
  | some n =>
    let text := s.cursor.rest.take (used + n)
    let s' := passString (used + n) s
    .next [s.token (.string text) s'.mark] s'
  | none =>
    let line := abandonedLine size s.mark.line body
    s.faultAfter 1 (if size = 3 then .unterminatedTriple line else .unterminatedString line)

/-- The first character of a word that a name may not have there. -/
def strangeChar : List Char → Option (Nat × Char)
  | [] => none
  | c :: cs =>
    if Text.isNameStart c then
      let good := cs.takeWhile Text.isNameRest
      (cs.drop good.length).head?.map fun d => (good.length + 1, d)
    else some (0, c)

def strangeProblem (c : Char) : Problem :=
  if Text.isPrintable c then .invalidCharacter c else .nonPrintable c

/-- A word: a keyword, a name, or what precedes the quote of a string. -/
def wordToken (s : LexState) : LexStep :=
  let word := s.cursor.rest.takeWhile Number.isNameChar
  let n := word.length
  let asName : LexStep :=
    match strangeChar word with
    | some (i, c) => s.faultAfter (i + 1) (strangeProblem c)
    | none =>
      match Keyword.ofWord? word with
      | some k => s.emit (.keyword k) n
      | none =>
        let normal := Text.normalName word
        s.emit (.name (String.ofList normal) (normal == word)) n
  match s.cursor.rest.drop n with
  | c :: _ =>
    if (c = '"' ∨ c = '\'') ∧ opensString word then s.stringToken n c else asName
  | [] => asName

/-- Punctuation, with the brackets it opens and closes. -/
def punctToken (s : LexState) (c : Char) : LexStep :=
  match Punct.read? s.cursor.rest with
  | none =>
    if Text.isPrintable c then s.emit (.punct .stray) 1 else s.faultAfter 1 (.nonPrintable c)
  | some (p, n) =>
    if p = .lparen ∨ p = .lbracket ∨ p = .lbrace then
      if maxBrackets ≤ s.brackets.length then s.faultAfter 1 .tooManyBrackets
      else { s with brackets := ⟨c, s.mark⟩ :: s.brackets }.emit (.punct p) n
    else if p = .rparen ∨ p = .rbracket ∨ p = .rbrace then
      match s.brackets with
      | [] => s.faultAfter 1 (.unmatched c)
      | b :: rest =>
        if b.closes c then { s with brackets := rest }.emit (.punct p) n
        else s.faultAfter 1 (.mismatched c b.char
          (if b.mark.line = s.mark.line then none else some b.mark.line))
    else s.emit (.punct p) n

/-- The next token on a line. -/
def nextToken (s : LexState) : LexStep :=
  let s := { s with cursor := s.cursor.skipWhile isIndentation }
  match s.cursor.rest with
  | [] => s.atEnd
  | c :: cs =>
    if c = '#' then
      .next [] { s with
        cursor := s.cursor.skipWhile (· != '\n')
        comment := some (s.mark.char + 1) }
    else if c = '\n' then
      let column := s.comment.getD (s.mark.char + 1)
      let token := { s.token .newline s.mark with column := column, reach := column }
      let s' := { s.nextLine false with lineStart := true, comment := none }
      if s.brackets.isEmpty then .next [token] s' else .next [] s'
    else if c.isDigit || (c == '.' && (cs.head?.any Char.isDigit)) then
      match Number.read s.cursor.rest with
      | .ok (form, n) => s.emit (.number form) n
      | .error (problem, n) => s.numberFault n problem
    else if Number.isNameChar c then s.wordToken
    else if c = '"' ∨ c = '\'' then s.stringToken 0 c
    else if c = '\\' then
      match s.continueLine with
      | .ok s => .next [] s
      | .error e => e
    else s.punctToken c

/-- One step; `fuel` bounds the blanks at the start of a line. -/
def step (fuel : Nat) (s : LexState) : LexStep :=
  if s.lineStart then s.startLine fuel else s.nextToken

/-- Takes steps until the text ends, newest token first in `acc`; `fuel` bounds the steps. -/
def runFrom : Nat → List Token → LexState → Lexed
  | 0, acc, s => ⟨acc.reverse, .finished, s.brackets⟩
  | fuel + 1, acc, s =>
    match s.step fuel with
    | .next tokens s' => runFrom fuel (tokens.reverse ++ acc) s'
    | .done tokens ending => ⟨acc.reverse ++ tokens, ending, s.brackets⟩

end LexState

/-- The tokens of a text whose first character stands at `start`. -/
def lexAt (start : Mark) (text : List Char) : Lexed :=
  LexState.runFrom (3 * text.length + 8) [] { cursor := ⟨text, start⟩, line := text }

def lex (text : List Char) : Lexed := lexAt ⟨1, 0, 0⟩ text

end AwaitLint.Grammar
