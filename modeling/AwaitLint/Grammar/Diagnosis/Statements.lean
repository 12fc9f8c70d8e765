import AwaitLint.Grammar.Diagnosis.Expressions

/-! # Rules of statements -/

namespace AwaitLint.Grammar.Diagnosis

open ExpressionRule StatementRule

/-! ## Parts that rules share -/

private def yieldOrExpressions : Peg := .any [is yieldExpr, is starExpressions]

/-- What is assigned after an annotation. -/
private def annotatedValue : Peg := .maybe (oneOf [[sign .equal, annotatedRhs]])

private def targetsBefore : Peg := oneOf [[starTargets, sign .equal]]

private def bases : Peg := .maybe (oneOf [[sign .lparen, .maybe arguments, sign .rparen]])

private def returns : Peg := .maybe (oneOf [[sign .arrow, expression]])

private def asName : Peg := .maybe (oneOf [[word .as, name]])

/-- A statement whose line ends without a colon. -/
private def unfinished (items : List Peg) : Alternative := alt (items ++ [lineEnd]) missingColon

/-- A statement without a block; `n` is the item that it starts with. -/
private def blockless (items : List Peg) (n : Nat) (owner : String) : Alternative :=
  alt (items ++ [sign .colon, lineEnd, .unless indent]) (missingBlock n owner)

private def statementOf (text : String) : String := "'" ++ text ++ "' statement"

private def mixedHandlers : String :=
  "cannot have both 'except' and 'except*' on the same 'try'"

private def functionPegs : ParameterPegs where
  plain := paramNoDefault
  withDefault := paramWithDefault
  maybeDefault := paramMaybeDefault
  slashPlain := slashNoDefault
  slashWithDefault := slashWithDefault
  starEtc := starEtc

private def functionRest : List Peg :=
  [word .define, name, .demand (.punct .lparen) "'('", .maybe params, sign .rparen, returns,
    demandColon, block]

private def withItemRow : Peg := .gather (sign .comma) withItem

private def withRows : List (List Peg) :=
  [[word .with, sign .lparen, withItemRow, .maybe (sign .comma), sign .rparen, sign .colon, block],
    [word .with, withItemRow, sign .colon, block]]

/-- Items of a `with` statement as they are looked for in mistakes. -/
private def looseItems (item : Peg) : Peg :=
  .gather (sign .comma) (oneOf [[item, .maybe (oneOf [[word .as, starTarget]])]])

private def looseWith : List (List Peg) :=
  [[.maybe (word .async), word .with, looseItems expression],
    [.maybe (word .async), word .with, sign .lparen, looseItems expressions, .maybe (sign .comma),
      sign .rparen]]

/-! ## The rules -/

def StatementRule.body : StatementRule → Peg
  | .file => oneOf [[.maybe statements, textEnd]]
  | .statements => oneOrMore statement
  | .statement => .any [is compoundStmt, is simpleStmts]
  | .simpleStmts =>
    oneOf [
      [simpleStmt, .unless (sign .semicolon), lineEnd],
      [.gather (sign .semicolon) simpleStmt, .maybe (sign .semicolon), lineEnd]]
  | .simpleStmt =>
    .any [
      is assignment,
      is starExpressions,
      row [.ahead (word .return), returnStmt],
      row [.ahead (oneOf [[word .import], [word .from]]), importStmt],
      row [.ahead (word .raise), raiseStmt],
      row [word .pass],
      row [.ahead (word .del), delStmt],
      row [.ahead (word .yield), yieldStmt],
      row [.ahead (word .assert), assertStmt],
      row [word .break],
      row [word .continue],
      row [.ahead (word .global), globalStmt],
      row [.ahead (word .nonlocal), nonlocalStmt]]
  | .compoundStmt =>
    .any [
      row [.ahead (oneOf [[word .define], [sign .atSign], [word .async]]), functionDef],
      row [.ahead (word .if), ifStmt],
      row [.ahead (oneOf [[word .classDef], [sign .atSign]]), classDef],
      row [.ahead (oneOf [[word .with], [word .async]]), withStmt],
      row [.ahead (oneOf [[word .for], [word .async]]), forStmt],
      row [.ahead (word .try), tryStmt],
      row [.ahead (word .while), whileStmt],
      is PatternRule.matchStmt]
  | .assignment =>
    .any [
      row [name, sign .colon, expression, annotatedValue],
      row [oneOf [[sign .lparen, singleTarget, sign .rparen], [singleSubscriptAttributeTarget]],
        sign .colon, expression, annotatedValue],
      row [oneOrMore targetsBefore, yieldOrExpressions, .unless (sign .equal)],
      row [singleTarget, augAssign, .cut, yieldOrExpressions],
      mistake invalidAssignment]
  | .annotatedRhs => yieldOrExpressions
  | .augAssign => sign .augmented
  | .returnStmt => oneOf [[word .return, .maybe starExpressions]]
  | .raiseStmt =>
    oneOf [
      [word .raise, expression, .maybe (oneOf [[word .from, expression]])],
      [word .raise]]
  | .globalStmt => oneOf [[word .global, .gather (sign .comma) name]]
  | .nonlocalStmt => oneOf [[word .nonlocal, .gather (sign .comma) name]]
  | .delStmt =>
    .any [
      row [word .del, delTargets, .ahead (oneOf [[sign .semicolon], [lineEnd]])],
      mistake invalidDelStmt]
  | .yieldStmt => yieldExpr
  | .assertStmt =>
    oneOf [[word .assert, expression, .maybe (oneOf [[sign .comma, expression]])]]
  | .importStmt => .any [is importName, is importFrom]
  | .importName => oneOf [[word .import, dottedAsNames]]
  | .importFrom =>
    let dot := oneOf [[sign .dot], [sign .ellipsis]]
    oneOf [
      [word .from, .many dot, dottedName, word .import, importFromTargets],
      [word .from, oneOrMore dot, word .import, importFromTargets]]
  | .importFromTargets =>
    .any [
      row [sign .lparen, importFromAsNames, .maybe (sign .comma), sign .rparen],
      row [importFromAsNames, .unless (sign .comma)],
      row [sign .star],
      mistake invalidImportFromTargets]
  | .importFromAsNames => .gather (sign .comma) importFromAsName
  | .importFromAsName => oneOf [[name, asName]]
  | .dottedAsNames => .gather (sign .comma) dottedAsName
  | .dottedAsName => oneOf [[dottedName, asName]]
  | .dottedName => .chain name [row [sign .dot, name]]
  | .block =>
    .any [
      row [lineEnd, indent, statements, dedent],
      is simpleStmts,
      mistake invalidBlock]
  | .decorators => oneOrMore (oneOf [[sign .atSign, namedExpression, lineEnd]])
  | .classDef => oneOf [[decorators, classDefRaw], [classDefRaw]]
  | .classDefRaw =>
    .any [
      mistake invalidClassDefRaw,
      row [word .classDef, name, bases, sign .colon, block]]
  | .functionDef => oneOf [[decorators, functionDefRaw], [functionDefRaw]]
  | .functionDefRaw =>
    .any [
      mistake invalidDefRaw,
      row functionRest,
      row (word .async :: functionRest)]
  | .params => .any [mistake invalidParameters, is parameters]
  | .parameters => parametersPeg functionPegs
  | .slashNoDefault => slashPeg [oneOrMore paramNoDefault] .rparen
  | .slashWithDefault => slashPeg [.many paramNoDefault, oneOrMore paramWithDefault] .rparen
  | .starEtc =>
    .any [
      mistake invalidStarEtc,
      row [sign .star, paramNoDefault, .many paramMaybeDefault, .maybe kwds],
      row [sign .star, paramNoDefaultStarAnnotated, .many paramMaybeDefault, .maybe kwds],
      row [sign .star, sign .comma, oneOrMore paramMaybeDefault, .maybe kwds],
      is kwds]
  | .kwds => .any [mistake invalidKwds, row [sign .doubleStar, paramNoDefault]]
  | .paramNoDefault => parameterPeg [param] .rparen
  | .paramNoDefaultStarAnnotated => parameterPeg [paramStarAnnotated] .rparen
  | .paramWithDefault => parameterPeg [param, default] .rparen
  | .paramMaybeDefault => parameterPeg [param, .maybe default] .rparen
  | .param => oneOf [[name, .maybe annotated]]
  | .paramStarAnnotated => oneOf [[name, starAnnotated]]
  | .annotated => oneOf [[sign .colon, expression]]
  | .starAnnotated => oneOf [[sign .colon, starExpression]]
  | .ifStmt =>
    .any [
      mistake invalidIfStmt,
      row [word .if, namedExpression, sign .colon, block, elifStmt],
      row [word .if, namedExpression, sign .colon, block, .maybe elseBlock]]
  | .elifStmt =>
    .any [
      mistake invalidElifStmt,
      row [word .elif, namedExpression, sign .colon, block, elifStmt],
      row [word .elif, namedExpression, sign .colon, block, .maybe elseBlock]]
  | .elseBlock => .any [mistake invalidElseStmt, row [word .else, demandColon, block]]
  | .whileStmt =>
    .any [
      mistake invalidWhileStmt,
      row [word .while, namedExpression, sign .colon, block, .maybe elseBlock]]
  | .forStmt =>
    let rest : List Peg := [word .for, starTargets, word .in, .cut, starExpressions, sign .colon, block,
      .maybe elseBlock]
    .any [mistake invalidForStmt, row rest, row (word .async :: rest), mistake invalidForTarget]
  | .withStmt =>
    .any ([mistake invalidWithStmtIndent] ++ withRows.map row
      ++ withRows.map (fun r => row (word .async :: r)) ++ [mistake invalidWithStmt])
  | .withItem =>
    .any [
      row [expression, word .as, starTarget,
        .ahead (oneOf [[sign .comma], [sign .rparen], [sign .colon]])],
      mistake invalidWithItem,
      is expression]
  | .tryStmt =>
    .any [
      mistake invalidTryStmt,
      row [word .try, demandColon, block, finallyBlock],
      row [word .try, demandColon, block, oneOrMore exceptBlock, .maybe elseBlock,
        .maybe finallyBlock],
      row [word .try, demandColon, block, oneOrMore exceptStarBlock, .maybe elseBlock,
        .maybe finallyBlock]]
  | .exceptBlock =>
    .any [
      mistake invalidExceptStmtIndent,
      row [word .except, expression, asName, sign .colon, block],
      row [word .except, sign .colon, block],
      mistake invalidExceptStmt]
  | .exceptStarBlock =>
    .any [
      mistake invalidExceptStarStmtIndent,
      row [word .except, sign .star, expression, asName, sign .colon, block],
      mistake invalidExceptStmt]
  | .finallyBlock => .any [mistake invalidFinallyStmt, row [word .finally, demandColon, block]]
  | .invalidAssignment =>
    .any [
      .mk [invalidAnnAssignTarget, sign .colon, expression] fun xs =>
        .wrong (pick xs 0).start
          (.misuse ("only single target (not " ++ (pick xs 0).title ++ ") can be annotated")),
      alt [starNamedExpression, sign .comma, .many starNamedExpressions, sign .colon, expression]
        (blame 0 "only single target (not tuple) can be annotated"),
      alt [expression, sign .colon, expression] (blame 0 "illegal target for annotation"),
      alt [.many targetsBefore, starExpressions, sign .equal] (blameTarget 1 .assigned),
      alt [.many targetsBefore, yieldExpr, sign .equal]
        (blame 1 "assignment to yield expression not possible"),
      alt [starExpressions, augAssign, yieldOrExpressions]
        (blameTitle 0 "'" "' is an illegal expression for augmented assignment")]
  | .invalidAnnAssignTarget =>
    .any [is list, is tuple, alt [sign .lparen, invalidAnnAssignTarget, sign .rparen] (pass 1)]
  | .invalidDelStmt => .any [alt [word .del, starExpressions] (blameTarget 1 .deleted)]
  | .invalidBlock =>
    .any [alt [lineEnd, .unless indent] (complain "expected an indented block")]
  | .invalidParameters =>
    invalidParametersPeg functionPegs invalidParametersHelper (oneOrMore paramNoDefault)
      "Function parameters cannot be parenthesized"
  | .invalidParametersHelper => oneOf [[slashWithDefault], [oneOrMore paramWithDefault]]
  | .invalidStarEtc =>
    invalidStarPeg functionPegs param .rparen (blame 0 "named arguments must follow bare *")
  | .invalidKwds => invalidKwdsPeg param
  | .invalidWithItem =>
    .any [
      alt [expression, word .as, expression,
          .ahead (oneOf [[sign .comma], [sign .rparen], [sign .colon]])]
        (blameTarget 2 .assigned)]
  | .invalidImportFromTargets =>
    .any [
      alt [importFromAsNames, sign .comma, lineEnd]
        (complain "trailing comma not allowed without surrounding parentheses")]
  | .invalidWithStmt => .any (looseWith.map unfinished)
  | .invalidWithStmtIndent => .any (looseWith.map fun r => blockless r 1 (statementOf "with"))
  | .invalidTryStmt =>
    .any [
      blockless [word .try] 0 (statementOf "try"),
      .mk [word .try, sign .colon, block, .unless (oneOf [[word .except], [word .finally]])]
        fun _ => .wrongHere .expectedHandler,
      alt [word .try, sign .colon, .many block, oneOrMore exceptBlock, word .except, sign .star,
          expression, asName, sign .colon]
        (blame 4 mixedHandlers),
      alt [word .try, sign .colon, .many block, oneOrMore exceptStarBlock, word .except,
          .maybe (oneOf [[expression, asName]]), sign .colon]
        (blame 4 mixedHandlers)]
  | .invalidExceptStmt =>
    .any [
      alt [word .except, .maybe (sign .star), expression, sign .comma, expressions, asName,
          sign .colon]
        (blame 2 "multiple exception types must be parenthesized"),
      unfinished [word .except, .maybe (sign .star), expression, asName],
      unfinished [word .except],
      alt [word .except, sign .star, oneOf [[lineEnd], [sign .colon]]]
        (complain "expected one or more exception types")]
  | .invalidFinallyStmt => .any [blockless [word .finally] 0 (statementOf "finally")]
  | .invalidExceptStmtIndent =>
    .any [
      blockless [word .except, expression, asName] 0 (statementOf "except"),
      blockless [word .except] 0 (statementOf "except")]
  | .invalidExceptStarStmtIndent =>
    .any [
      blockless [word .except, sign .star, expression, asName] 0 (statementOf "except*")]
  | .invalidIfStmt =>
    .any [
      unfinished [word .if, namedExpression],
      blockless [word .if, namedExpression] 0 (statementOf "if")]
  | .invalidElifStmt =>
    .any [
      unfinished [word .elif, namedExpression],
      blockless [word .elif, namedExpression] 0 (statementOf "elif")]
  | .invalidElseStmt => .any [blockless [word .else] 0 (statementOf "else")]
  | .invalidWhileStmt =>
    .any [
      unfinished [word .while, namedExpression],
      blockless [word .while, namedExpression] 0 (statementOf "while")]
  | .invalidForStmt =>
    let loop : List Peg := [.maybe (word .async), word .for, starTargets, word .in, starExpressions]
    .any [unfinished loop, blockless loop 1 (statementOf "for")]
  | .invalidDefRaw =>
    .any [
      blockless [.maybe (word .async), word .define, name, sign .lparen, .maybe params,
        sign .rparen, returns] 1 "function definition"]
  | .invalidClassDefRaw =>
    .any [
      unfinished [word .classDef, name, bases],
      blockless [word .classDef, name, bases] 0 "class definition"]

/-- Whether results of a rule are remembered. -/
def StatementRule.isRemembered : StatementRule → Bool
  | .simpleStmt | .block | .dottedName => true
  | _ => false

end AwaitLint.Grammar.Diagnosis
