import AwaitLint.Json.Basic
import AwaitLint.Number.Shortest

/-! # Writing JSON -/

namespace AwaitLint.Json

def hex4 (n : Nat) : List Char :=
  let digits := Nat.toDigits 16 n
  List.replicate (4 - digits.length) '0' ++ digits

def escapeUnit (n : Nat) : List Char := ['\\', 'u'] ++ hex4 n

/-- A character inside quotes; control characters are escaped, and the others stand as they are. -/
def escapeChar (c : Char) : List Char :=
  if c = '"' then ['\\', '"']
  else if c = '\\' then ['\\', '\\']
  else if c = '\n' then ['\\', 'n']
  else if c = '\r' then ['\\', 'r']
  else if c = '\t' then ['\\', 't']
  else if c = '\x08' then ['\\', 'b']
  else if c = '\x0c' then ['\\', 'f']
  else if c.toNat < 32 then escapeUnit c.toNat
  else [c]

/-- The same with everything outside ASCII as escapes of 16-bit units. -/
def escapeAscii (c : Char) : List Char :=
  if c.toNat < 127 then escapeChar c
  else if c.toNat < 0x10000 then escapeUnit c.toNat
  else
    let n := c.toNat - 0x10000
    escapeUnit (0xD800 + n / 1024) ++ escapeUnit (0xDC00 + n % 1024)

def quoteWith (escape : Char → List Char) (s : String) : String :=
  "\"" ++ String.ofList (s.toList.flatMap escape) ++ "\""

def quote (s : String) : String := quoteWith escapeChar s

def quoteAscii (s : String) : String := quoteWith escapeAscii s

mutual

/-- The form in which values are kept and sent, without blanks. -/
def compact : Json → String
  | null => "null"
  | bool b => if b then "true" else "false"
  | int n => toString n
  | float x => Binary64.keptLayout.render x
  | str s => quote s
  | arr items => "[" ++ String.intercalate "," (compactAll items) ++ "]"
  | obj fields => "\x7b" ++ String.intercalate "," (compactFields fields) ++ "\x7d"

def compactAll : List Json → List String
  | [] => []
  | x :: xs => x.compact :: compactAll xs

def compactFields : List (String × Json) → List String
  | [] => []
  | (k, v) :: fs => (quote k ++ ":" ++ v.compact) :: compactFields fs

end

private def indentText (n : Nat) : String := "\n" ++ String.ofList (List.replicate (2 * n) ' ')

private def framed (open_ close : String) (level : Nat) (items : List String) : String :=
  if items.isEmpty then open_ ++ close
  else open_ ++ indentText (level + 1) ++ String.intercalate ("," ++ indentText (level + 1)) items
    ++ indentText level ++ close

mutual

/-- The form in which values are printed: one item a line, two blanks a level. -/
def pretty (level : Nat) : Json → String
  | arr items => framed "[" "]" level (prettyAll (level + 1) items)
  | obj fields => framed "\x7b" "\x7d" level (prettyFields (level + 1) fields)
  | null => "null"
  | bool b => if b then "true" else "false"
  | int n => toString n
  | float x => Binary64.reportLayout.render x
  | str s => quoteAscii s

def prettyAll (level : Nat) : List Json → List String
  | [] => []
  | x :: xs => x.pretty level :: prettyAll level xs

def prettyFields (level : Nat) : List (String × Json) → List String
  | [] => []
  | (k, v) :: fs => (quoteAscii k ++ ": " ++ v.pretty level) :: prettyFields level fs

end

mutual

/-- Numbers that are not finite have no text, so `null` stands for them. -/
def onlyFinite : Json → Json
  | float x => if x.isFinite then float x else null
  | arr items => arr (onlyFiniteAll items)
  | obj fields => obj (onlyFiniteFields fields)
  | null => null
  | bool b => bool b
  | int n => int n
  | str s => str s

def onlyFiniteAll : List Json → List Json
  | [] => []
  | x :: xs => x.onlyFinite :: onlyFiniteAll xs

def onlyFiniteFields : List (String × Json) → List (String × Json)
  | [] => []
  | (k, v) :: fs => (k, v.onlyFinite) :: onlyFiniteFields fs

end

end AwaitLint.Json
