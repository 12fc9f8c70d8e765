import AwaitLint.Node

/-! # The async functions of a tree -/

namespace AwaitLint

/-- An async function as it is listed: `awaits` counts those that its own body runs, and `nested`
tells whether it stands inside another one. -/
structure FunctionSummary where
  name : String
  line : Int
  endLine : Int
  awaits : Nat
  nested : Bool
  deriving DecidableEq, Repr, Inhabited

namespace Node

mutual

/-- The awaits below a node, those in the body of an async function left out. -/
def ownAwaits : Node → Nat
  | absent | name _ | constant | captureRest _ => 0
  | attr value _ => value.ownAwaits
  | subscript value index => value.ownAwaits + index.ownAwaits
  | call func args keywords => func.ownAwaits + ownAwaitsAll args + ownAwaitsAll keywords
  | keyword _ value => value.ownAwaits
  | dict keys values => ownAwaitsAll keys + ownAwaitsAll values
  | sequence items => ownAwaitsAll items
  | starred value => value.ownAwaits
  | operation operands => ownAwaitsAll operands
  | conditional test body other => test.ownAwaits + body.ownAwaits + other.ownAwaits
  | await _ _ value => value.ownAwaits + 1
  | yield value => value.ownAwaits
  | walrus target value => target.ownAwaits + value.ownAwaits
  | lambda parameters body => parameters.ownAwaits + body.ownAwaits
  | comprehension results clauses => ownAwaitsAll results + ownAwaitsAll clauses
  | clause target source conditions =>
      target.ownAwaits + source.ownAwaits + ownAwaitsAll conditions
  | parameter _ typeExpr => typeExpr.ownAwaits
  | capture _ pattern => pattern.ownAwaits
  | patterns parts => ownAwaitsAll parts
  | mappingPattern keys parts _ => ownAwaitsAll keys + ownAwaitsAll parts
  | classPattern cls parts _ attrParts =>
      cls.ownAwaits + ownAwaitsAll parts + ownAwaitsAll attrParts
  | valuePattern value => value.ownAwaits
  | asyncDef _ _ _ decorators parameters returns _ =>
      ownAwaitsAll decorators + parameters.ownAwaits + returns.ownAwaits
  | assign _ targets value => ownAwaitsAll targets + value.ownAwaits
  | annAssign _ target typeExpr value =>
      target.ownAwaits + typeExpr.ownAwaits + value.ownAwaits
  | exprStmt _ value => value.ownAwaits
  | compound parts => ownAwaitsAll parts

def ownAwaitsAll : List Node → Nat
  | [] => 0
  | x :: xs => x.ownAwaits + ownAwaitsAll xs

end

mutual

/-- The async functions among a node and its parts, outer ones first. -/
def functions (nested : Bool) : Node → List FunctionSummary
  | absent | name _ | constant | captureRest _ => []
  | attr value _ => value.functions nested
  | subscript value index => value.functions nested ++ index.functions nested
  | call func args keywords =>
      func.functions nested ++ functionsAll nested args ++ functionsAll nested keywords
  | keyword _ value => value.functions nested
  | dict keys values => functionsAll nested keys ++ functionsAll nested values
  | sequence items => functionsAll nested items
  | starred value => value.functions nested
  | operation operands => functionsAll nested operands
  | conditional test body other =>
      test.functions nested ++ body.functions nested ++ other.functions nested
  | await _ _ value => value.functions nested
  | yield value => value.functions nested
  | walrus target value => target.functions nested ++ value.functions nested
  | lambda parameters body => parameters.functions nested ++ body.functions nested
  | comprehension results clauses => functionsAll nested results ++ functionsAll nested clauses
  | clause target source conditions =>
      target.functions nested ++ source.functions nested ++ functionsAll nested conditions
  | parameter _ typeExpr => typeExpr.functions nested
  | capture _ pattern => pattern.functions nested
  | patterns parts => functionsAll nested parts
  | mappingPattern keys parts _ => functionsAll nested keys ++ functionsAll nested parts
  | classPattern cls parts _ attrParts =>
      cls.functions nested ++ functionsAll nested parts ++ functionsAll nested attrParts
  | valuePattern value => value.functions nested
  | asyncDef _ span id decorators parameters returns body =>
      ⟨id, span.line, span.lastLine, ownAwaitsAll body, nested⟩
        :: (parameters.functions true ++ functionsAll true body ++ functionsAll true decorators
          ++ returns.functions true)
  | assign _ targets value => functionsAll nested targets ++ value.functions nested
  | annAssign _ target typeExpr value =>
      target.functions nested ++ typeExpr.functions nested ++ value.functions nested
  | exprStmt _ value => value.functions nested
  | compound parts => functionsAll nested parts

def functionsAll (nested : Bool) : List Node → List FunctionSummary
  | [] => []
  | x :: xs => x.functions nested ++ functionsAll nested xs

end

/-- The async functions below the root of a tree by their lines; those on one line stay in the order
in which they are met. -/
def summary (tree : Node) : List FunctionSummary :=
  let below := match tree with
    | asyncDef _ _ _ decorators parameters returns body =>
        parameters.functions false ++ functionsAll false body ++ functionsAll false decorators
          ++ returns.functions false
    | t => t.functions false
  below.mergeSort fun a b => decide (a.line ≤ b.line)

end Node

end AwaitLint
