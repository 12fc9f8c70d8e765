/-! # Places in a source text and what is reported there -/

namespace AwaitLint

/-- A region of a source text. Lines count from one, columns from zero in UTF-8 bytes; a tree that
was not read from a text may lack its ends. -/
structure Span where
  line : Int
  column : Int
  endLine : Option Int
  endColumn : Option Int
  deriving DecidableEq, Repr, Inhabited

/-- The line on which a region ends; a missing or zero end line falls back on the first line. -/
def Span.lastLine (s : Span) : Int :=
  match s.endLine with
  | some l => if l = 0 then s.line else l
  | none => s.line

/-- The two findings: a third sequential await, and awaits that could run together. -/
inductive Kind | waterfallChain | preferParallelCombinator
  deriving DecidableEq, Repr, Inhabited

namespace Kind

def text : Kind → String
  | waterfallChain => "waterfall-chain"
  | preferParallelCombinator => "prefer-parallel-combinator"

def all : List Kind := [waterfallChain, preferParallelCombinator]

def ofText? (s : String) : Option Kind := all.find? fun k => k.text == s

/-- The text of a request that names no kind. -/
def unknownMessage (s : String) : String := "'" ++ s ++ "' is not a valid DiagnosticKind"

/-- Kinds in the order of their texts. -/
def rank : Kind → Nat
  | preferParallelCombinator => 0
  | waterfallChain => 1

end Kind

/-- A kind of finding and its place. -/
structure Diagnostic where
  kind : Kind
  line : Int
  column : Int
  endLine : Int
  endColumn : Int
  deriving DecidableEq, Repr, Inhabited

namespace Diagnostic

/-- A finding anchored on a span. A missing end column falls back on the first column. -/
def ofSpan (kind : Kind) (s : Span) : Diagnostic where
  kind := kind
  line := s.line
  column := s.column
  endLine := s.lastLine
  endColumn := s.endColumn.getD s.column

def position (d : Diagnostic) : Int × Int := (d.line, d.column)

/-- Reading order: line, then column, then the text of the kind. -/
def le (a b : Diagnostic) : Bool :=
  if a.line ≠ b.line then a.line < b.line
  else if a.column ≠ b.column then a.column < b.column
  else a.kind.rank ≤ b.kind.rank

/-- The findings in reading order; equal ones keep their order. -/
def sort (ds : List Diagnostic) : List Diagnostic := ds.mergeSort le

end Diagnostic

end AwaitLint
