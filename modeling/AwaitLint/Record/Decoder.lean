import AwaitLint.Json.Basic
import AwaitLint.Record.Issue
import AwaitLint.Record.NumberText

/-! # Reading records out of JSON

A decoder gives a value or everything that is wrong, in the order of the fields. It is lenient: a
number may be written as text, a truth value as a number or a word, and unknown fields do not count.
-/

namespace AwaitLint.Record

/-- A value, or all the issues that were found instead. -/
inductive Checked (α : Type)
  | ok (value : α)
  | bad (issues : List Issue)

namespace Checked

variable {α β : Type}

def map (f : α → β) : Checked α → Checked β
  | ok a => ok (f a)
  | bad is => bad is

/-- Applies a checked function; the issues of both sides add up. -/
def seq : Checked (α → β) → Checked α → Checked β
  | ok f, ok a => ok (f a)
  | ok _, bad is => bad is
  | bad is, ok _ => bad is
  | bad is, bad js => bad (is ++ js)

def issue (p : Problem) : Checked α := bad [⟨[], p⟩]

/-- Places the issues under a step. -/
def under (step : Step) : Checked α → Checked α
  | ok a => ok a
  | bad is => bad (is.map (Issue.under step))

/-- A further condition on a value. -/
def ensure (holds : α → Bool) (p : Problem) : Checked α → Checked α
  | ok a => if holds a then ok a else issue p
  | bad is => bad is

end Checked

instance : Applicative Checked where
  pure := .ok
  seq f x := f.seq (x ())

abbrev Decoder (α : Type) := Json → Checked α

/-- Integers of 64 bits with a sign. -/
def fitsWord (n : Int) : Bool := decide (-9223372036854775808 ≤ n) && decide (n < 9223372036854775808)

namespace Decoder

variable {α : Type}

def string : Decoder String
  | .str s => .ok s
  | _ => .issue .notString

/-- An integral number below 64 bits. -/
def wholeOf (x : Binary64) : Checked Int :=
  if !x.isFinite then .issue .notFinite
  else match x.toInt? with
    | some n => if fitsWord n then .ok n else .issue .integerText
    | none => .issue .integerFraction

def integer : Decoder Int
  | .int n => .ok n
  | .bool b => .ok (if b then 1 else 0)
  | .float x => wholeOf x
  | .str s => match integer? s with
    | some n => .ok n
    | none => .issue .integerText
  | _ => .issue .notInteger

def number : Decoder Binary64
  | .float x => .ok x
  | .int n => let x := Binary64.ofInt n; if x.isFinite then .ok x else .issue .notNumber
  | .bool b => .ok (.ofNat (if b then 1 else 0))
  | .str s => match number? s with
    | some x => .ok x
    | none => .issue .numberText
  | _ => .issue .notNumber

/-- The words for the two truth values. -/
def truthOf? (word : String) : Option Bool :=
  if ["1", "on", "t", "true", "y", "yes"].contains word then some true
  else if ["0", "off", "f", "false", "n", "no"].contains word then some false
  else none

def truthOfInt (n : Int) : Checked Bool :=
  if n = 0 then .ok false else if n = 1 then .ok true else .issue .booleanText

def boolean : Decoder Bool
  | .bool b => .ok b
  | .int n => if fitsWord n then truthOfInt n else .issue .notBoolean
  | .float x => match wholeOf x with
    | .ok n => truthOfInt n
    | .bad _ => .issue .notBoolean
  | .str s => match truthOf? (String.ofList (s.toList.map Char.toLower)) with
    | some b => .ok b
    | none => .issue .booleanText
  | _ => .issue .notBoolean

/-- One of a fixed list of words. -/
def oneOf (options : List (String × α)) (j : Json) : Checked α :=
  match j with
  | .str s =>
    match options.find? fun o => o.1 == s with
    | some o => .ok o.2
    | none => .issue (.notOneOf (options.map fun o => o.1))
  | _ => .issue (.notOneOf (options.map fun o => o.1))

def nullable (d : Decoder α) : Decoder (Option α)
  | .null => .ok none
  | j => (d j).map some

/-- Decodes the items from number `n` on. -/
def items (d : Decoder α) : Nat → List Json → Checked (List α)
  | _, [] => .ok []
  | n, j :: js => (((d j).under (.index n)).map List.cons).seq (items d (n + 1) js)

def list (d : Decoder α) : Decoder (List α)
  | .arr js => items d 0 js
  | _ => .issue .notList

end Decoder

/-- The fields of a record. -/
abbrev Fields := List (String × Json)

namespace Fields

variable {α : Type}

def get? (fs : Fields) (name : String) : Option Json := (fs.find? (·.1 == name)).map (·.2)

def required (fs : Fields) (name : String) (d : Decoder α) : Checked α :=
  (match fs.get? name with
  | some j => d j
  | none => .issue .missing).under (.field name)

/-- A field that may be left out. -/
def optional (fs : Fields) (name : String) (d : Decoder α) (absent : α) : Checked α :=
  match fs.get? name with
  | some j => (d j).under (.field name)
  | none => .ok absent

end Fields

/-- What is said about a value that is no record: whether it should have been one of a name, or only
something with fields. -/
inductive Expects | named | fields
  deriving DecidableEq, Repr

/-- A record of a name. -/
def record {α : Type} (e : Expects) (name : String) (d : Fields → Checked α) : Decoder α
  | .obj fs => d fs
  | _ => .issue (match e with | .named => .notRecord name | .fields => .notFields)

end AwaitLint.Record
