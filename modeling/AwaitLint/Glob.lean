/-! # Path patterns -/

namespace AwaitLint

/-- One part of a pattern. -/
inductive GlobPart
  | literal (c : Char)
  | any
  | star
  /-- One of a list of ranges, or none of them. -/
  | set (negated : Bool) (ranges : List (Char × Char))
  deriving DecidableEq, Repr

namespace GlobPart

/-- Whether a part that stands for one character accepts it. -/
def accepts : GlobPart → Char → Bool
  | literal d, c => c == d
  | any, _ => true
  | star, _ => false
  | set negated ranges, c =>
    (ranges.any fun r => decide (r.1 ≤ c) && decide (c ≤ r.2)) != negated

/-- What is left of a text after one character that the part accepts. -/
def after? (part : GlobPart) : List Char → Option (List Char)
  | c :: cs => if part.accepts c then some cs else none
  | [] => none

end GlobPart

namespace Glob

/-- All ends of a text, longest first. -/
def tails : List Char → List (List Char)
  | [] => [[]]
  | c :: cs => (c :: cs) :: tails cs

/-- What may be left of the text after one more part. The ends left before it are given longest
first. -/
def advance (left : List (List Char)) : GlobPart → List (List Char)
  | .star => match left with
    | [] => []
    | longest :: _ => tails longest
  | part => left.filterMap part.after?

/-- Whether parts match a whole text. -/
def matchParts (parts : List GlobPart) (text : List Char) : Bool :=
  (parts.foldl advance [text]).any List.isEmpty

/-- The inside of a set up to its closing bracket, and what follows; the first character, or the one
after a `!`, may be a bracket itself. -/
def splitSet (cs : List Char) : Option (List Char × List Char) :=
  let head := if cs.head? = some '!' then 1 else 0
  let head := if (cs.drop head).head? = some ']' then head + 1 else head
  let inner := (cs.drop head).takeWhile (· != ']')
  match cs.drop (head + inner.length) with
  | _ :: rest => some (cs.take head ++ inner, rest)
  | [] => none

/-- Cuts the inside of a set at the hyphens that make ranges: the next one is looked for two
characters on. `skip` characters are kept at first, `chunk` is what has been read, last first. -/
def chunks : Nat → List Char → List Char → List (List Char)
  | _, chunk, [] => [chunk.reverse]
  | skip + 1, chunk, c :: cs => chunks skip (c :: chunk) cs
  | 0, chunk, c :: cs =>
    if c = '-' then chunk.reverse :: chunks 2 [] cs else chunks 0 (c :: chunk) cs

/-- A hyphen at the very end makes no range. -/
def closeChunks (cs : List (List Char)) : List (List Char) :=
  match cs.reverse with
  | [] :: last :: rest => ((last ++ ['-']) :: rest).reverse
  | _ => cs

/-- Joins chunks whose range would be empty, from the last on. -/
def joinEmpty : List (List Char) → List (List Char)
  | [] => []
  | chunk :: rest =>
    match joinEmpty rest with
    | [] => [chunk]
    | next :: more =>
      match chunk.getLast?, next.head? with
      | some a, some b =>
        if b < a then (chunk.dropLast ++ next.drop 1) :: more else chunk :: next :: more
      | _, _ => chunk :: next :: more

def singles (cs : List Char) : List (Char × Char) := cs.map fun c => (c, c)

/-- The ranges that chunks describe: single characters, and a range across each cut. -/
def rangesOf : List (List Char) → List (Char × Char)
  | [] => []
  | [chunk] => singles chunk
  | chunk :: next :: rest =>
    let across := match chunk.getLast?, next.head? with
      | some a, some b => [(a, b)]
      | _, _ => []
    singles chunk ++ across ++ rangesOf (next :: rest)

/-- The part for the inside of a set. -/
def setPart (inner : List Char) : GlobPart :=
  let skip := if inner.head? = some '!' then 2 else 1
  let cut := if inner.contains '-' then joinEmpty (closeChunks (chunks skip [] inner)) else [inner]
  match cut with
  | ('!' :: chunk) :: rest => .set true (rangesOf (chunk :: rest))
  | cut => .set false (rangesOf cut)

/-- The parts of a pattern; `fuel` bounds their number. A bracket that is never closed stands for
itself. -/
def partsFrom : Nat → List Char → List GlobPart
  | 0, _ => []
  | _, [] => []
  | fuel + 1, c :: cs =>
    if c = '*' then .star :: partsFrom fuel cs
    else if c = '?' then .any :: partsFrom fuel cs
    else if c = '[' then
      match splitSet cs with
      | some (inner, rest) => setPart inner :: partsFrom fuel rest
      | none => .literal '[' :: partsFrom fuel cs
    else .literal c :: partsFrom fuel cs

def parts (pattern : List Char) : List GlobPart := partsFrom pattern.length pattern

/-- Whether a pattern matches a whole text. `*` and `?` stand for any characters. -/
def accepts (pattern text : String) : Bool := matchParts (parts pattern.toList) text.toList

end Glob

end AwaitLint
