import AwaitLint.Names
import AwaitLint.Runs

/-! # Scopes of async functions and the awaits recorded in them -/

namespace AwaitLint

/-- What a statement that is one whole await awaits, and the names it writes. -/
structure AwaitedBinding where
  label : Nat
  span : Span
  bound : List String
  deriving DecidableEq, Repr

/-- The statements that a run is made of: an assignment, annotated or not, whose whole value is an
await, or a bare await. Returns the span of the statement with its binding. -/
def Node.awaitedBinding? : Node → Option (Span × AwaitedBinding)
  | .assign span targets (.await label s _) => some (span, ⟨label, s, Node.writesAll targets⟩)
  | .annAssign span target _ (.await label s _) => some (span, ⟨label, s, target.writes⟩)
  | .exprStmt span (.await label s _) => some (span, ⟨label, s, []⟩)
  | _ => none

/-- A recorded await. The statement is known only when the await is all of a direct body
statement. -/
structure Operation where
  label : Nat
  span : Span
  value : Node
  statement : Option Span
  bound : List String
  deriving Repr, Inhabited

/-- The names that the awaited expression reads. -/
def Operation.refs (o : Operation) : List String := o.value.reads

/-- A direct body statement that is one await, by the label of the await. -/
structure Qualified where
  label : Nat
  statement : Span
  bound : List String
  deriving DecidableEq, Repr

/-- An open async function: the awaits met so far, oldest first, and whether a parallel combinator
was called. -/
structure Scope where
  label : Nat
  name : String
  qualifying : List Qualified
  operations : List Operation := []
  parallel : Bool := false
  deriving Repr, Inhabited

namespace Scope

def qualified (body : List Node) : List Qualified :=
  body.filterMap fun s => s.awaitedBinding?.map fun (span, b) => ⟨b.label, span, b.bound⟩

/-- A scope in which nothing has been recorded yet. -/
def opened (label : Nat) (name : String) (body : List Node) : Scope where
  label := label
  name := name
  qualifying := qualified body

/-- The operation for an await; of several statements with one await the last counts. -/
def operation (s : Scope) (label : Nat) (span : Span) (value : Node) : Operation :=
  match s.qualifying.reverse.find? fun q => q.label == label with
  | some q => ⟨label, span, value, some q.statement, q.bound⟩
  | none => ⟨label, span, value, none, []⟩

def record (s : Scope) (label : Nat) (span : Span) (value : Node) : Scope :=
  { s with operations := s.operations ++ [s.operation label span value] }

/-- The awaits that are whole direct body statements, in the order in which they were met. -/
def topLevel (s : Scope) : List Operation := s.operations.filter fun o => o.statement.isSome

def runs (s : Scope) : List (List Operation) :=
  independentRuns Operation.bound Operation.refs s.topLevel

end Scope

/-- What is reported when a scope is left; the flag tells whether no other scope is open. -/
abbrev Report := Scope → Bool → List Diagnostic

/-- The number of awaits from which a function is a waterfall. -/
def waterfallThreshold : Nat := 3

/-- One finding, on the third await of a function that calls no parallel combinator. -/
def waterfallReport : Report := fun s _ =>
  if s.parallel then []
  else match s.operations[waterfallThreshold - 1]? with
    | some o => [.ofSpan .waterfallChain o.span]
    | none => []

/-- One finding per run of two or more statements of an outermost function, on its second
statement. -/
def runsReport : Report := fun s outermost =>
  if outermost then
    s.runs.filterMap fun run => do
      let second ← run[1]?
      let statement ← second.statement
      return .ofSpan .preferParallelCombinator statement
  else []

end AwaitLint
