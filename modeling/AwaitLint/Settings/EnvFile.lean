import AwaitLint.Text.Blank

/-! # Files of environment variables

A line is `KEY=value`, perhaps after `export`. A value may stand in quotes, in which case it may go
over several lines; otherwise a `#` after a blank starts a comment. Lines that do not fit are passed
over. `${NAME}` and `${NAME:-default}` stand for variables that were set before.
-/

namespace AwaitLint.EnvFile

def isLineEnd (c : Char) : Bool := c == '\n' || c == '\r'

/-- A blank that does not end the line. -/
def isInline (c : Char) : Bool := Text.isBlank c && !isLineEnd c

def afterInline (cs : List Char) : List Char := cs.dropWhile isInline

/-- What follows `export` and blanks, or the text itself. -/
def afterExport (cs : List Char) : List Char :=
  if cs.take 6 = "export".toList ∧ (cs.drop 6).head?.any isInline then afterInline (cs.drop 6) else cs

/-- A key; `none` stands for a comment. Fails with what is left if there is no key. -/
def readKey (cs : List Char) : Except (List Char) (Option (List Char) × List Char) :=
  match cs with
  | '#' :: _ => .ok (none, cs)
  | '\'' :: rest =>
    let key := rest.takeWhile (· ≠ '\'')
    match rest.drop key.length with
    | '\'' :: after => if key.isEmpty then .error cs else .ok (some key, after)
    | _ => .error cs
  | _ =>
    let key := cs.takeWhile fun c => c != '=' && c != '#' && !Text.isBlank c
    if key.isEmpty then .error cs else .ok (some key, cs.drop key.length)

/-- Splits at the first quote without a backslash before it. -/
def plainQuote? (quote : Char) : List Char → Option (List Char × List Char)
  | [] => none
  | '\\' :: c :: cs =>
    if c = quote then (plainQuote? quote cs).map fun (a, b) => ('\\' :: c :: a, b)
    else (plainQuote? quote (c :: cs)).map fun (a, b) => ('\\' :: a, b)
  | c :: cs =>
    if c = quote then some ([], cs) else (plainQuote? quote cs).map fun (a, b) => (c :: a, b)

/-- Splits at the last quote with a backslash before it. -/
def lastQuote? (quote : Char) : List Char → Option (List Char × List Char)
  | [] => none
  | c :: cs =>
    match lastQuote? quote cs with
    | some (a, b) => some (c :: a, b)
    | none => match c, cs with
      | '\\', d :: rest => if d = quote then some (['\\'], rest) else none
      | _, _ => none

/-- The text in quotes: up to the first plain quote, or else up to the last one there is. -/
def quoted? (quote : Char) (cs : List Char) : Option (List Char × List Char) :=
  (plainQuote? quote cs).or (lastQuote? quote cs)

/-- The character that a letter after a backslash stands for. -/
def escape? (double : Bool) (c : Char) : Option Char :=
  if c = '\\' ∨ c = '\'' then some c
  else if !double then none
  else match c with
    | '"' => some '"'
    | 'a' => some '\x07'
    | 'b' => some '\x08'
    | 'f' => some '\x0c'
    | 'n' => some '\n'
    | 'r' => some '\r'
    | 't' => some '\t'
    | 'v' => some '\x0b'
    | _ => none

def unescape (double : Bool) : List Char → List Char
  | '\\' :: c :: cs =>
    match escape? double c with
    | some e => e :: unescape double cs
    | none => '\\' :: unescape double (c :: cs)
  | c :: cs => c :: unescape double cs
  | [] => []

/-- Takes off blanks with a `#` after them and all that follows. -/
def dropComment : List Char → List Char
  | [] => []
  | c :: cs =>
    if Text.isBlank c ∧ (cs.dropWhile Text.isBlank).head? = some '#' then []
    else c :: dropComment cs

def dropTrailing (cs : List Char) : List Char := (cs.reverse.dropWhile Text.isBlank).reverse

def readValue (cs : List Char) : Except (List Char) (List Char × List Char) :=
  match cs with
  | [] => .ok ([], cs)
  | c :: rest =>
    if c = '\'' ∨ c = '"' then
      match quoted? c rest with
      | some (text, after) => .ok (unescape (c = '"') text, after)
      | none => .error cs
    else if isLineEnd c then .ok ([], cs)
    else
      let line := cs.takeWhile fun d => !isLineEnd d
      .ok (dropTrailing (dropComment line), cs.drop line.length)

/-- Goes past a comment. -/
def afterComment (cs : List Char) : List Char :=
  match afterInline cs with
  | '#' :: rest => rest.dropWhile fun c => !isLineEnd c
  | _ => cs

/-- Goes past the end of the line, of which nothing but blanks may be left. -/
def afterLine (cs : List Char) : Except (List Char) (List Char) :=
  match afterInline cs with
  | [] => .ok []
  | '\r' :: '\n' :: rest => .ok rest
  | c :: rest => if isLineEnd c then .ok rest else .error cs

/-- Gives up on a line. -/
def skipLine (cs : List Char) : List Char :=
  match cs.dropWhile fun c => !isLineEnd c with
  | [] => []
  | _ :: rest => rest

/-- A key with its value, if it has one. -/
abbrev Entry := String × Option String

/-- One line, or what is left where it does not fit. -/
def readLine (cs : List Char) : Except (List Char) (Option Entry × List Char) := do
  let (key, cs) ← readKey (afterExport cs)
  let (value, cs) ← match afterInline cs with
    | '=' :: rest => do
      let (value, cs) ← readValue (afterInline rest)
      pure (some (String.ofList value), cs)
    | cs => pure (none, cs)
  let cs ← afterLine (afterComment cs)
  return (key.map fun k => (String.ofList k, value), cs)

/-- All lines; `fuel` bounds their number. -/
def readLines : Nat → List Char → List Entry
  | 0, _ => []
  | fuel + 1, cs =>
    match cs.dropWhile Text.isBlank with
    | [] => []
    | c :: rest =>
      match readLine (c :: rest) with
      | .ok (some e, left) => e :: readLines fuel left
      | .ok (none, left) => readLines fuel left
      | .error left => readLines fuel (skipLine left)

/-- Sets a variable: a new one comes last, a known one keeps its place. -/
def assign (name : String) (value : Option String) (vars : List Entry) : List Entry :=
  if vars.any (·.1 == name) then vars.map fun v => if v.1 == name then (name, value) else v
  else vars ++ [(name, value)]

/-- The value of a variable, or its default. -/
def valueOf (vars : List Entry) (name default : String) : String :=
  match vars.find? (·.1 == name) with
  | some (_, value) => value.getD ""
  | none => default

/-- A reference after `${`: its name, its default, and the rest. -/
def reference? (cs : List Char) : Option (String × String × List Char) :=
  let name := cs.takeWhile fun c => c != '\x7d' && c != ':'
  match cs.drop name.length with
  | '\x7d' :: rest => some (String.ofList name, "", rest)
  | ':' :: '-' :: more =>
    let default := more.takeWhile (· ≠ '\x7d')
    match more.drop default.length with
    | '\x7d' :: rest => some (String.ofList name, String.ofList default, rest)
    | _ => none
  | _ => none

/-- Replaces references; `fuel` bounds the steps. -/
def expand (vars : List Entry) : Nat → List Char → List Char
  | 0, cs => cs
  | _, [] => []
  | fuel + 1, c :: cs =>
    match c, cs with
    | '$', '\x7b' :: rest =>
      match reference? rest with
      | some (name, default, rest) => (valueOf vars name default).toList ++ expand vars fuel rest
      | none => c :: expand vars fuel cs
    | _, _ => c :: expand vars fuel cs

/-- Replaces the references in each value by what was set before it, in the file or around it. -/
def resolve (around : List Entry) (lines : List Entry) : List Entry :=
  lines.foldl (fun found (name, value) =>
    let vars := found.foldl (fun vars v => assign v.1 v.2 vars) around
    assign name (value.map fun v => String.ofList (expand vars v.length v.toList)) found) []

/-- The variables of a file. -/
def read (around : List Entry) (text : List Char) : List Entry :=
  resolve around (readLines (text.length + 1) text)

end AwaitLint.EnvFile
