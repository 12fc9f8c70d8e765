import AwaitLint.Grammar.Token
import AwaitLint.Node

/-! # Parsers over tokens

A parser takes tokens from the front, or does not match. Why a text does not match is no concern of
its own.
-/

namespace AwaitLint.Grammar

/-- The tokens that are left and the end of the last token taken that has text. `budget` bounds the
repetitions of every loop. -/
structure Stream where
  tokens : List Token
  last : Mark
  budget : Nat

def Parser (α : Type) := Stream → Option (α × Stream)

namespace Parser

@[inline] protected def pure {α} (a : α) : Parser α := fun s => some (a, s)

@[inline] protected def bind {α β} (p : Parser α) (f : α → Parser β) : Parser β := fun s =>
  match p s with
  | some (a, s) => f a s
  | none => none

instance : Monad Parser where
  pure := Parser.pure
  bind := Parser.bind

def fail {α} : Parser α := fun _ => none

/-- Tries `q` from the same place where `p` does not match. -/
def orElse {α} (p q : Parser α) : Parser α := fun s =>
  match p s with
  | some r => some r
  | none => q s

/-- The next token, which stays where it is. -/
def peek : Parser Token := fun s =>
  match s.tokens with
  | [] => none
  | t :: _ => some (t, s)

/-- The token after the next one. -/
def peekSecond : Parser Token := fun s =>
  match s.tokens with
  | _ :: t :: _ => some (t, s)
  | _ => none

def hasText : TokenKind → Bool
  | .newline | .indent | .dedent | .endmarker => false
  | _ => true

/-- Takes the next token. -/
def advance : Parser Unit := fun s =>
  match s.tokens with
  | [] => none
  | t :: rest => some ((), { s with tokens := rest, last := if hasText t.kind then t.stop else s.last })

def peekKind : Parser TokenKind := do return (← peek).kind

def nextIs (kind : TokenKind) : Parser Bool := do return (← peek).kind == kind

def nextIsPunct (p : Punct) : Parser Bool := nextIs (.punct p)

def nextIsKeyword (k : Keyword) : Parser Bool := nextIs (.keyword k)

/-- Takes the next token if it is of the given kind. -/
def accept (kind : TokenKind) : Parser Bool := do
  if ← nextIs kind then
    advance
    return true
  else return false

def acceptPunct (p : Punct) : Parser Bool := accept (.punct p)

def acceptKeyword (k : Keyword) : Parser Bool := accept (.keyword k)

def expect (kind : TokenKind) : Parser Unit := do
  if ← accept kind then return () else fail

def expectPunct (p : Punct) : Parser Unit := expect (.punct p)

def expectKeyword (k : Keyword) : Parser Unit := expect (.keyword k)

/-- A name that is not a keyword. -/
def name : Parser String := do
  match ← peekKind with
  | .name id _ =>
    advance
    return id
  | _ => fail

/-- Whether the next token is a given word written as it stands. -/
def nextIsWord (word : String) : Parser Bool := do
  match ← peekKind with
  | .name id verbatim => return verbatim && id == word
  | _ => return false

/-- Repeats a step until it yields a result, at most `fuel` times. -/
def iterate {σ α} (step : σ → Parser (σ ⊕ α)) : Nat → σ → Parser α
  | 0, _ => fail
  | fuel + 1, x => do
    match ← step x with
    | .inl y => iterate step fuel y
    | .inr a => return a

def loop {σ α} (step : σ → Parser (σ ⊕ α)) (x : σ) : Parser α := fun s =>
  iterate step s.budget x s

/-- Items separated by commas, with whether there was a comma. After a comma another item is read
if the next token can start one. -/
def commaList {α} (starts : TokenKind → Bool) (item : Parser α) : Parser (List α × Bool) := do
  let first ← item
  loop (fun (acc : List α × Bool) => do
    if ← acceptPunct .comma then
      if starts (← peekKind) then
        let x ← item
        return .inl (x :: acc.1, true)
      else return .inr (acc.1.reverse, true)
    else return .inr (acc.1.reverse, acc.2)) ([first], false)

/-- The place of the next token. -/
def here : Parser Mark := do return (← peek).start

/-- The span from a place to the end of the last token taken. -/
def spanFrom (start : Mark) : Parser Span := fun s =>
  some (⟨start.line, start.byte, some s.last.line, some s.last.byte⟩, s)

end Parser

end AwaitLint.Grammar
