import AwaitLint.Grammar.Token

/-! # Pieces of a text, as far as messages speak of them -/

namespace AwaitLint.Grammar.Diagnosis

/-- What a piece of the text is. -/
inductive Form
  | name (id : String)
  | attribute
  | subscript
  | starred
  | list
  | tuple
  | lambda
  | call
  | operation
  | generator
  | yield
  | await
  | listComprehension
  | setComprehension
  | dictComprehension
  | dict
  | set
  | formatted
  | literal
  | imaginary
  | constant (title : String)
  /-- A comparison, and whether its first sign is `in`. Its first operand is its only part. -/
  | comparison (within : Bool)
  | conditional
  | named
  /-- An argument given by name, and one that spreads a mapping. -/
  | keyword
  | spread
  /-- Pieces that follow each other. -/
  | several
  | absent
  | other
  deriving DecidableEq, Repr

/-- The words for an expression in a message. -/
def Form.title : Form → String
  | .name _ => "name"
  | .attribute => "attribute"
  | .subscript => "subscript"
  | .starred => "starred"
  | .list => "list"
  | .tuple => "tuple"
  | .lambda => "lambda"
  | .call => "function call"
  | .operation => "expression"
  | .generator => "generator expression"
  | .yield => "yield expression"
  | .await => "await expression"
  | .listComprehension => "list comprehension"
  | .setComprehension => "set comprehension"
  | .dictComprehension => "dict comprehension"
  | .dict => "dict literal"
  | .set => "set display"
  | .formatted => "f-string expression"
  | .literal | .imaginary => "literal"
  | .constant title => title
  | .comparison _ => "comparison"
  | .conditional => "conditional expression"
  | .named => "named expression"
  | .keyword | .spread | .several | .absent | .other => ""

/-- A line and a column, both counted from one. -/
structure Place where
  line : Nat
  column : Nat
  deriving DecidableEq, Repr

/-- A piece with the place of its first token, that of the last character and its parts. -/
inductive Piece
  | mk (form : Form) (start stop : Place) (parts : List Piece)

namespace Piece

def nothing : Piece := .mk .absent ⟨1, 0⟩ ⟨1, 0⟩ []

def form : Piece → Form
  | .mk s _ _ _ => s

def start : Piece → Place
  | .mk _ p _ _ => p

def stop : Piece → Place
  | .mk _ _ p _ => p

def parts : Piece → List Piece
  | .mk _ _ _ ps => ps

def title (x : Piece) : String := x.form.title

/-- What is assigned to or deleted. -/
inductive Use
  | assigned
  | looped
  | deleted
  deriving DecidableEq, Repr

mutual

/-- The first part that may not be used as a target. -/
def badTarget? (use : Use) : Piece → Option Piece
  | .mk .list _ _ parts | .mk .tuple _ _ parts => firstBadTarget? use parts
  | .mk .starred p q parts =>
    if use = .deleted then some (.mk .starred p q parts) else firstBadTarget? use parts
  | .mk (.comparison within) p q parts =>
    if use = .looped then (if within then firstBadTarget? use parts else none)
    else some (.mk (.comparison within) p q parts)
  | .mk (.name _) _ _ _ | .mk .attribute _ _ _ | .mk .subscript _ _ _ => none
  | x => some x

def firstBadTarget? (use : Use) : List Piece → Option Piece
  | [] => none
  | x :: xs =>
    match badTarget? use x with
    | some y => some y
    | none => firstBadTarget? use xs

end

end Piece

end AwaitLint.Grammar.Diagnosis
