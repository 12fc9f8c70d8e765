import AwaitLint.Diagnostic

/-! # Syntax trees

A tree holds what the analysis looks at. Constructs that it treats alike share a constructor, and a
missing optional child is `absent`. Awaits and async functions carry a label that tells two
occurrences of the same text apart.
-/

namespace AwaitLint

inductive Node where
  /-- An optional child that is not there. -/
  | absent
  | name (id : String)
  /-- A literal, in an expression or in a pattern. -/
  | constant
  | attr (value : Node) (field : String)
  | subscript (value index : Node)
  | call (func : Node) (args keywords : List Node)
  | keyword (arg : Option String) (value : Node)
  /-- A display of pairs; the key of a spread entry is absent. -/
  | dict (keys values : List Node)
  /-- A list or a tuple. -/
  | sequence (items : List Node)
  | starred (value : Node)
  /-- Operators, slices, sets and formatted text: all operands are read. -/
  | operation (operands : List Node)
  /-- A conditional expression, whose test is visited first. -/
  | conditional (test body other : Node)
  | await (label : Nat) (span : Span) (value : Node)
  | yield (value : Node)
  | walrus (target value : Node)
  | lambda (parameters body : Node)
  /-- The results and the `for` clauses of a comprehension or a generator. -/
  | comprehension (results clauses : List Node)
  | clause (target source : Node) (conditions : List Node)
  | parameter (name : String) (typeExpr : Node)
  /-- A pattern with a name for what it matched; both parts are optional. -/
  | capture (name : Option String) (pattern : Node)
  /-- The starred part of a sequence pattern. -/
  | captureRest (name : Option String)
  /-- A sequence of patterns, or alternatives. -/
  | patterns (parts : List Node)
  | mappingPattern (keys parts : List Node) (rest : Option String)
  | classPattern (cls : Node) (parts : List Node) (attrs : List String) (attrParts : List Node)
  | valuePattern (value : Node)
  | asyncDef (label : Nat) (span : Span) (name : String) (decorators : List Node)
      (parameters returns : Node) (body : List Node)
  | assign (span : Span) (targets : List Node) (value : Node)
  | annAssign (span : Span) (target typeExpr value : Node)
  | exprStmt (span : Span) (value : Node)
  /-- Any other construct, with its parts in the order in which they are visited. -/
  | compound (parts : List Node)
  deriving Repr, Inhabited

namespace Node

/-- The parts of a node in the order in which they are visited. -/
def children : Node → List Node
  | absent | name _ | constant | captureRest _ => []
  | attr value _ => [value]
  | subscript value index => [value, index]
  | call func args keywords => func :: args ++ keywords
  | keyword _ value => [value]
  | dict keys values => keys ++ values
  | sequence items => items
  | starred value => [value]
  | operation operands => operands
  | conditional test body other => [test, body, other]
  | await _ _ value => [value]
  | yield value => [value]
  | walrus target value => [target, value]
  | lambda parameters body => [parameters, body]
  | comprehension results clauses => results ++ clauses
  | clause target source conditions => target :: source :: conditions
  | parameter _ typeExpr => [typeExpr]
  | capture _ pattern => [pattern]
  | patterns parts => parts
  | mappingPattern keys parts _ => keys ++ parts
  | classPattern cls parts _ attrParts => cls :: parts ++ attrParts
  | valuePattern value => [value]
  | asyncDef _ _ _ decorators parameters returns body =>
      parameters :: body ++ decorators ++ [returns]
  | assign _ targets value => targets ++ [value]
  | annAssign _ target typeExpr value => [target, typeExpr, value]
  | exprStmt _ value => [value]
  | compound parts => parts

mutual

/-- Numbers the awaits and the async functions of a tree from `n` on, so that no two of them share
a label; returns the next free number. -/
def number : Node → Nat → Node × Nat
  | attr value field, n => let (v, n) := value.number n; (attr v field, n)
  | subscript value index, n =>
      let (v, n) := value.number n; let (i, n) := index.number n; (subscript v i, n)
  | call func args keywords, n =>
      let (f, n) := func.number n; let (a, n) := numberAll args n
      let (k, n) := numberAll keywords n; (call f a k, n)
  | keyword arg value, n => let (v, n) := value.number n; (keyword arg v, n)
  | dict keys values, n =>
      let (k, n) := numberAll keys n; let (v, n) := numberAll values n; (dict k v, n)
  | sequence items, n => let (i, n) := numberAll items n; (sequence i, n)
  | starred value, n => let (v, n) := value.number n; (starred v, n)
  | operation operands, n => let (o, n) := numberAll operands n; (operation o, n)
  | conditional test body other, n =>
      let (t, n) := test.number n; let (b, n) := body.number n
      let (o, n) := other.number n; (conditional t b o, n)
  | await _ span value, n => let (v, m) := value.number (n + 1); (await n span v, m)
  | yield value, n => let (v, n) := value.number n; (yield v, n)
  | walrus target value, n =>
      let (t, n) := target.number n; let (v, n) := value.number n; (walrus t v, n)
  | lambda parameters body, n =>
      let (p, n) := parameters.number n; let (b, n) := body.number n; (lambda p b, n)
  | comprehension results clauses, n =>
      let (r, n) := numberAll results n; let (c, n) := numberAll clauses n
      (comprehension r c, n)
  | clause target source conditions, n =>
      let (t, n) := target.number n; let (s, n) := source.number n
      let (c, n) := numberAll conditions n; (clause t s c, n)
  | parameter id typeExpr, n => let (a, n) := typeExpr.number n; (parameter id a, n)
  | capture id pattern, n => let (p, n) := pattern.number n; (capture id p, n)
  | patterns parts, n => let (p, n) := numberAll parts n; (patterns p, n)
  | mappingPattern keys parts rest, n =>
      let (k, n) := numberAll keys n; let (p, n) := numberAll parts n
      (mappingPattern k p rest, n)
  | classPattern cls parts attrs attrParts, n =>
      let (c, n) := cls.number n; let (p, n) := numberAll parts n
      let (q, n) := numberAll attrParts n; (classPattern c p attrs q, n)
  | valuePattern value, n => let (v, n) := value.number n; (valuePattern v, n)
  | asyncDef _ span id decorators parameters returns body, n =>
      let (d, m) := numberAll decorators (n + 1); let (p, m) := parameters.number m
      let (r, m) := returns.number m; let (b, m) := numberAll body m
      (asyncDef n span id d p r b, m)
  | assign span targets value, n =>
      let (t, n) := numberAll targets n; let (v, n) := value.number n; (assign span t v, n)
  | annAssign span target typeExpr value, n =>
      let (t, n) := target.number n; let (a, n) := typeExpr.number n
      let (v, n) := value.number n; (annAssign span t a v, n)
  | exprStmt span value, n => let (v, n) := value.number n; (exprStmt span v, n)
  | compound parts, n => let (p, n) := numberAll parts n; (compound p, n)
  | absent, n => (absent, n)
  | name id, n => (name id, n)
  | constant, n => (constant, n)
  | captureRest id, n => (captureRest id, n)

def numberAll : List Node → Nat → List Node × Nat
  | [], n => ([], n)
  | x :: xs, n => let (y, n) := x.number n; let (ys, n) := numberAll xs n; (y :: ys, n)

end

/-- The tree with fresh, pairwise different labels. -/
def labelled (t : Node) : Node := (t.number 0).1

end Node

end AwaitLint
