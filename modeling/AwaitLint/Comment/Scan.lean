import AwaitLint.Text.Word

/-! # The comments of a text

Lines end at `\n` only. A string that does not end where it should is no string: its quote is passed
over, and a `#` after it starts a comment. Open brackets and backslashes join lines, and the scan
stops early where they stay open or where a line goes back to no known indentation.
-/

namespace AwaitLint.Comment

/-- Why a scan stopped before the end of the text. -/
inductive Stop
  | unindent (line : Nat)
  | insideString (line column : Nat)
  | insideStatement (line : Nat)
  deriving DecidableEq, Repr

def Stop.message : Stop → String
  | unindent line =>
      "unindent does not match any outer indentation level (<tokenize>, line " ++ toString line ++ ")"
  | insideString line column =>
      "('EOF in multi-line string', (" ++ toString line ++ ", " ++ toString column ++ "))"
  | insideStatement line => "('EOF in multi-line statement', (" ++ toString line ++ ", 0))"

/-- The comments by line, with the header: those before the first code. -/
structure Comments where
  byLine : List (Int × String) := []
  header : List String := []
  stopped : Option Stop := none
  deriving Repr, Inhabited

/-- The comment of a line. -/
def Comments.at? (c : Comments) (line : Int) : Option String :=
  (c.byLine.find? (·.1 == line)).map (·.2)

/-- A string that goes on over the line end: its quote, whether there are three, and its place. -/
structure OpenString where
  quote : Char
  triple : Bool
  line : Nat
  column : Nat
  deriving DecidableEq, Repr

/-- The state between lines; indentations innermost first. -/
structure Scan where
  byLine : List (Int × String) := []
  header : List String := []
  inHeader : Bool := true
  depth : Int := 0
  continued : Bool := false
  inString : Option OpenString := none
  indents : List Nat := [0]
  deriving Repr

namespace Scan

def record (s : Scan) (line : Int) (text : List Char) : Scan :=
  let t := String.ofList text
  { s with
    byLine := if s.byLine.any (·.1 == line) then
        s.byLine.map fun e => if e.1 == line then (line, t) else e
      else s.byLine ++ [(line, t)]
    header := if s.inHeader then s.header ++ [t] else s.header }

/-- Code has been seen. -/
def code (s : Scan) : Scan := { s with inHeader := false }

end Scan

/-- How the rest of a line continues a string. -/
inductive StringEnd
  | closed (length : Nat)
  | joined
  | missing
  deriving DecidableEq, Repr

/-- The end of a string with one quote on the line where it starts. -/
def shortEnd (quote : Char) : Nat → List Char → StringEnd
  | _, [] => .missing
  | _, ['\\', '\n'] => .joined
  | _, ['\\', '\r', '\n'] => .joined
  | n, '\\' :: c :: cs => if c = '\n' then .missing else shortEnd quote (n + 2) cs
  | n, c :: cs =>
    if c = quote then .closed (n + 1) else if c = '\n' then .missing else shortEnd quote (n + 1) cs

/-- The end of a string with one quote on a later line. -/
def laterEnd (quote : Char) : Nat → List Char → Option Nat
  | _, [] => none
  | n, '\\' :: c :: cs => if c = '\n' then none else laterEnd quote (n + 2) cs
  | n, c :: cs => if c = quote then some (n + 1) else laterEnd quote (n + 1) cs

/-- The end of a string with three quotes. -/
def tripleEnd (quote : Char) : Nat → List Char → Option Nat
  | _, [] => none
  | n, '\\' :: c :: cs => if c = '\n' then none else tripleEnd quote (n + 2) cs
  | n, a :: b :: c :: cs =>
    if a = quote ∧ b = quote ∧ c = quote then some (n + 3) else tripleEnd quote (n + 1) (b :: c :: cs)
  | n, _ :: cs => tripleEnd quote (n + 1) cs

def isQuote (c : Char) : Bool := c == '"' || c == '\''

/-- The letters before a quote that belong to the string. -/
def isStringLetters (cs : List Char) : Bool :=
  match cs.map Char.toLower with
  | [] | ['b'] | ['r'] | ['u'] | ['f'] | ['b', 'r'] | ['r', 'b'] | ['f', 'r'] | ['r', 'f'] => true
  | _ => false

/-- The word that ends with a character, last character first; no word starts with a digit. -/
def wordWith (c : Char) (word : List Char) : List Char :=
  if Text.isWord c && !(c.isDigit && word.isEmpty) then c :: word else []

/-- Goes through a line of code from a column on. `word` is the word just before, last character first;
`fuel` bounds the steps. -/
def scanCode (line : Nat) : Nat → Nat → List Char → List Char → Scan → Scan
  | 0, _, _, _, s => s
  | _, _, _, [], s => s
  | fuel + 1, column, word, c :: cs, s =>
    let go (n : Nat) (s : Scan) : Scan :=
      scanCode line fuel (column + n) [] ((c :: cs).drop n) s
    if c = ' ' ∨ c = '\t' ∨ c = '\x0c' ∨ c = '\n' then go 1 s
    else if c = '\r' ∧ cs = ['\n'] then go 2 s
    else if c = '\\' ∧ (cs = ['\n'] ∨ cs = ['\r', '\n']) then { s with continued := true }
    else if c = '#' then
      let text := (c :: cs).takeWhile fun d => d != '\r' && d != '\n'
      go text.length (s.record line text)
    else if isQuote c then
      let start := column - if isStringLetters word then word.length else 0
      match cs with
      | a :: b :: rest =>
        if a = c ∧ b = c then
          match tripleEnd c 3 rest with
          | some n => go n s.code
          | none => { s with inString := some ⟨c, true, line, start⟩ }
        else short start c cs s.code go
      | _ => short start c cs s.code go
    else if c = '(' ∨ c = '[' ∨ c = '\x7b' then go 1 { s.code with depth := s.depth + 1 }
    else if c = ')' ∨ c = ']' ∨ c = '\x7d' then go 1 { s.code with depth := s.depth - 1 }
    else scanCode line fuel (column + 1) (wordWith c word) cs s.code
where
  short (start : Nat) (c : Char) (cs : List Char) (s : Scan) (go : Nat → Scan → Scan) : Scan :=
    match shortEnd c 1 cs with
    | .closed n => go n s
    | .joined => { s with inString := some ⟨c, false, line, start⟩ }
    | .missing => go 1 s

/-- The column after the blanks at the start of a line, with how many there are. -/
def indentation : Nat → Nat → List Char → Nat × Nat
  | column, n, ' ' :: cs => indentation (column + 1) (n + 1) cs
  | column, n, '\t' :: cs => indentation ((column / 8 + 1) * 8) (n + 1) cs
  | _, n, '\x0c' :: cs => indentation 0 (n + 1) cs
  | column, n, _ => (column, n)

/-- A comment that has a line to itself ends with the line. -/
def wholeComment (cs : List Char) : List Char :=
  (cs.reverse.dropWhile fun c => c == '\r' || c == '\n').reverse

/-- The line ends in a backslash. -/
def endsJoined (cs : List Char) : Bool :=
  match cs.reverse with
  | '\n' :: '\\' :: _ => true
  | '\n' :: '\r' :: '\\' :: _ => true
  | _ => false

/-- One line, with its line end. -/
def scanLine (line : Nat) (text : List Char) (s : Scan) : Except Stop Scan :=
  let fuel := text.length + 1
  match s.inString with
  | some o =>
    match if o.triple then tripleEnd o.quote 0 text else laterEnd o.quote 0 text with
    | some n => .ok (scanCode line fuel n [] (text.drop n) { s.code with inString := none })
    | none =>
      if !o.triple && !endsJoined text then .ok { s.code with inString := none } else .ok s
  | none =>
    if s.depth = 0 ∧ s.continued = false then
      let (column, n) := indentation 0 0 text
      match text.drop n with
      | [] => .ok s
      | c :: cs =>
        if c = '#' then .ok (s.record line (wholeComment (c :: cs)))
        else if c = '\r' ∨ c = '\n' then .ok s
        else
          let current := s.indents.headD 0
          if current < column then
            .ok (scanCode line fuel n [] (c :: cs) { s.code with indents := column :: s.indents })
          else if column < current then
            if s.indents.contains column then
              .ok (scanCode line fuel n [] (c :: cs)
                { s.code with indents := s.indents.dropWhile fun i => decide (column < i) })
            else .error (.unindent line)
          else .ok (scanCode line fuel n [] (c :: cs) s)
    else .ok (scanCode line fuel 0 [] text { s with continued := false })

/-- Cuts a text after every `\n`. -/
def splitLines : List Char → List (List Char)
  | [] => []
  | '\n' :: cs => ['\n'] :: splitLines cs
  | c :: cs =>
    match splitLines cs with
    | [] => [[c]]
    | l :: ls => (c :: l) :: ls

def finish (s : Scan) (stopped : Option Stop) : Comments := ⟨s.byLine, s.header, stopped⟩

/-- The lines from number `line` on, up to the end of the text. -/
def scanLines : Nat → List (List Char) → Scan → Comments
  | line, [], s =>
    match s.inString with
    | some o => finish s (some (.insideString o.line o.column))
    | none =>
      if s.depth = 0 ∧ s.continued = false then finish s none
      else finish s (some (.insideStatement line))
  | line, text :: rest, s =>
    match scanLine line text s with
    | .ok s => scanLines (line + 1) rest s
    | .error e => finish s (some e)

def scan (text : List Char) : Comments := scanLines 1 (splitLines text) {}

end AwaitLint.Comment
