import AwaitLint.Scope

/-! # One walk over a tree that keeps the open scopes on a stack -/

namespace AwaitLint

/-- A call of a name's attribute whose dotted text is one of the combinators. -/
def isCombinatorCall (combinators : List String) : Node → Bool
  | .call (.attr (.name id) field) _ _ => combinators.contains (id ++ "." ++ field)
  | _ => false

def defaultCombinators : List String := ["asyncio.gather", "asyncio.wait"]

/-- The state of a walk: open scopes with the innermost first, the scopes left so far with whether
each was outermost, and the findings, oldest first. -/
structure Tracker where
  stack : List Scope := []
  exits : List (Scope × Bool) := []
  diagnostics : List Diagnostic := []
  deriving Inhabited

/-- Something that is told of each scope as it is left, with whether it was outermost. It gives its
findings; nothing keeps it from acting on the tracker as well. -/
structure Policy where
  onExit : Scope → Bool → Tracker → List Diagnostic × Tracker

namespace Policy

/-- A policy that does no more than report. -/
def ofReport (report : Report) : Policy where
  onExit s outermost t := (report s outermost, t)

def waterfall : Policy := ofReport waterfallReport
def runs : Policy := ofReport runsReport

/-- What a policy says about a scope. -/
def report (p : Policy) : Report := fun s outermost => (p.onExit s outermost {}).1

/-- The policy says the same in every state of the tracker, and leaves it alone. -/
def Passive (p : Policy) : Prop := ∀ s outermost t, p.onExit s outermost t = (p.report s outermost, t)

@[simp] theorem report_ofReport (r : Report) : (ofReport r).report = r := rfl

theorem passive_ofReport (r : Report) : (ofReport r).Passive := fun _ _ _ => rfl

end Policy

/-- What a walk is made with. -/
structure Watch where
  policies : List Policy
  combinators : List String

/-- Why a walk is refused. -/
inductive StackError
  | stillOpen
  | leftOpen (count : Nat)
  deriving DecidableEq, Repr

def StackError.message : StackError → String
  | stillOpen => "tracker reused while scopes are still open"
  | leftOpen n => toString n ++ " scope(s) still open after traversal"

namespace Tracker

def depth (t : Tracker) : Nat := t.stack.length

def enter (label : Nat) (name : String) (body : List Node) (t : Tracker) : Tracker :=
  { t with stack := .opened label name body :: t.stack }

/-- Records an await in the innermost open scope. -/
def recordAwait (label : Nat) (span : Span) (value : Node) (t : Tracker) : Tracker :=
  match t.stack with
  | [] => t
  | s :: rest => { t with stack := s.record label span value :: rest }

/-- Notes a combinator call in the innermost open scope. -/
def noteCall (w : Watch) (call : Node) (t : Tracker) : Tracker :=
  match t.stack with
  | [] => t
  | s :: rest =>
    if isCombinatorCall w.combinators call then { t with stack := { s with parallel := true } :: rest }
    else t

/-- Tells a policy of a scope that was left, and takes down its findings. -/
def consult (s : Scope) (outermost : Bool) (t : Tracker) (p : Policy) : Tracker :=
  let (found, t) := p.onExit s outermost t
  { t with diagnostics := t.diagnostics ++ found }

/-- Takes the innermost scope off the stack and tells every policy of it. -/
def close (w : Watch) (s : Scope) (rest : List Scope) (t : Tracker) : Tracker :=
  w.policies.foldl (consult s rest.isEmpty)
    { t with stack := rest, exits := t.exits ++ [(s, rest.isEmpty)] }

/-- Leaves the scope of a function. If another one is on top, nothing happens. -/
def exit (w : Watch) (label : Nat) (t : Tracker) : Tracker :=
  match t.stack with
  | [] => t
  | s :: rest => if s.label = label then t.close w s rest else t

mutual

/-- Visits a node and its parts. Decorators, parameters and the return type of an async
function belong to the scope around it, its body to its own. -/
def visit (w : Watch) : Node → Tracker → Tracker
  | .absent, t | .name _, t | .constant, t | .captureRest _, t => t
  | .attr value _, t => visit w value t
  | .subscript value index, t => visit w index (visit w value t)
  | .call func args keywords, t =>
      visitAll w keywords (visitAll w args (visit w func (t.noteCall w (.call func args keywords))))
  | .keyword _ value, t => visit w value t
  | .dict keys values, t => visitAll w values (visitAll w keys t)
  | .sequence items, t => visitAll w items t
  | .starred value, t => visit w value t
  | .operation operands, t => visitAll w operands t
  | .conditional test body other, t => visit w other (visit w body (visit w test t))
  | .await label span value, t => visit w value (t.recordAwait label span value)
  | .yield value, t => visit w value t
  | .walrus target value, t => visit w value (visit w target t)
  | .lambda parameters body, t => visit w body (visit w parameters t)
  | .comprehension results clauses, t => visitAll w clauses (visitAll w results t)
  | .clause target source conditions, t =>
      visitAll w conditions (visit w source (visit w target t))
  | .parameter _ typeExpr, t => visit w typeExpr t
  | .capture _ pattern, t => visit w pattern t
  | .patterns parts, t => visitAll w parts t
  | .mappingPattern keys parts _, t => visitAll w parts (visitAll w keys t)
  | .classPattern cls parts _ attrParts, t =>
      visitAll w attrParts (visitAll w parts (visit w cls t))
  | .valuePattern value, t => visit w value t
  | .asyncDef label _ name decorators parameters returns body, t =>
      let t := visit w returns (visit w parameters (visitAll w decorators t))
      (visitAll w body (t.enter label name body)).exit w label
  | .assign _ targets value, t => visit w value (visitAll w targets t)
  | .annAssign _ target typeExpr value, t =>
      visit w value (visit w typeExpr (visit w target t))
  | .exprStmt _ value, t => visit w value t
  | .compound parts, t => visitAll w parts t

def visitAll (w : Watch) : List Node → Tracker → Tracker
  | [], t => t
  | x :: xs, t => visitAll w xs (visit w x t)

end

/-- Walks a whole tree. It must start and end with no open scope; the state is returned also when
it does not. -/
def run (w : Watch) (tree : Node) (t : Tracker) : Tracker × Option StackError :=
  if t.stack.isEmpty then
    let t := visit w tree t
    (t, if t.stack.isEmpty then none else some (.leftOpen t.depth))
  else (t, some .stillOpen)

end Tracker

end AwaitLint
