import AwaitLint.Grammar.Diagnosis.Actions

/-! # Rules of expressions -/

namespace AwaitLint.Grammar.Diagnosis

open ExpressionRule

/-! ## Parts that rules share -/

/-- Operands that group to the left. -/
private def leftGrouped (operand : Peg) (signs : List Punct) : Peg :=
  .chain operand (signs.map fun p => alt [sign p, operand] (made .operation [0, 2]))

/-- Operands joined by a keyword. -/
private def joined (k : Keyword) (operand : Peg) : Peg :=
  .any [
    alt [operand, oneOrMore (.any [alt [word k, operand] (pass 1)])] (made .operation [0, 1]),
    is operand]

/-- Items with commas between them, one at least, and a tuple unless there is just one. -/
private def tupled (item : Peg) : Peg :=
  .any [
    alt [item, oneOrMore (.any [alt [sign .comma, item] (pass 1)]), .maybe (sign .comma)]
      (made .tuple [0, 1]),
    alt [item, sign .comma] (made .tuple [0]),
    is item]

/-- An expression that is not given a name after it. -/
private def plainExpression : Peg :=
  .any [is assignmentExpression, alt [expression, .unless (sign .walrus)] (pass 0)]

private def positionalArguments : Peg :=
  .gather (sign .comma) (.any [
    is starredExpression,
    alt [plainExpression, .unless (sign .equal)] (pass 0)])

/-- A comprehension between brackets. -/
private def comprehension (opening : Punct) (item : Peg) (closing : Punct) (form : Form) :
    Alternative :=
  alt [sign opening, item, forIfClauses, sign closing] (made form [])

/-- What stands after a target that is taken apart. -/
private def attributeOr (primary : Peg) (after : Peg) : List Alternative :=
  [alt [primary, sign .dot, name, after] (made .attribute []),
    alt [primary, sign .lbracket, slices, sign .rbracket, after] (made .subscript [])]

private def bracketOrParenOrBrace : Peg := oneOf [[sign .lbracket], [sign .lparen], [sign .lbrace]]

private def bracketOrBrace : Peg := oneOf [[sign .lbracket], [sign .lbrace]]

/-- Reports a generator that is not in parentheses after another argument. -/
private def blameGenerator : Action := fun xs =>
  let positional := (pick xs 0).parts.filter fun x => x.form != .keyword && x.form != .spread
  match positional with
  | _ :: _ :: _ =>
    .wrong (positional.getLastD .nothing).start
      (.misuse "Generator expression must be parenthesized")
  | _ => .refused

private def blameOrder : Action := fun xs =>
  .wrongHere (.misuse ("positional argument follows keyword argument"
    ++ if (pick xs 0).parts.any (·.form == .spread) then " unpacking" else ""))

private def isOldStatement (x : Piece) : Bool :=
  x.form == .name "print" || x.form == .name "exec"

private def meantEquality : String :=
  "invalid syntax. Maybe you meant '==' or ':=' instead of '='?"

/-! ## Parameters -/

/-- The alternatives of parameters: those without a default value, with one, and with or without. -/
structure ParameterPegs where
  plain : Peg
  withDefault : Peg
  maybeDefault : Peg
  slashPlain : Peg
  slashWithDefault : Peg
  starEtc : Peg

def parametersPeg (q : ParameterPegs) : Peg :=
  oneOf [
    [q.slashPlain, .many q.plain, .many q.withDefault, .maybe q.starEtc],
    [q.slashWithDefault, .many q.withDefault, .maybe q.starEtc],
    [oneOrMore q.plain, .many q.withDefault, .maybe q.starEtc],
    [oneOrMore q.withDefault, .maybe q.starEtc],
    [q.starEtc]]

/-- A parameter up to a comma, which is taken, or to the closing sign. -/
def parameterPeg (items : List Peg) (close : Punct) : Peg :=
  .any [
    alt (items ++ [sign .comma]) (pass 0),
    alt (items ++ [.ahead (sign close)]) (pass 0)]

/-- Parameters up to a slash. -/
def slashPeg (items : List Peg) (close : Punct) : Peg :=
  oneOf [items ++ [sign .slash, sign .comma], items ++ [sign .slash, .ahead (sign close)]]

/-- Mistakes in the order of parameters. `inParens` is what may wrongly stand in parentheses. -/
def invalidParametersPeg (q : ParameterPegs) (helper inParens : Peg) (parenthesized : String) :
    Peg :=
  let slashed := oneOf [[q.slashPlain], [q.slashWithDefault]]
  .any [
    alt [.many q.plain, helper, q.plain] (blame 2 "non-default argument follows default argument"),
    alt [.many q.plain, sign .lparen, inParens, .maybe (sign .comma), sign .rparen]
      (blame 1 parenthesized),
    alt [sign .slash, sign .comma] (blame 0 "at least one argument must precede /"),
    alt [slashed, .many q.maybeDefault, sign .slash] (blame 2 "/ may appear only once"),
    alt [.maybe slashed, .many q.maybeDefault, sign .star, oneOf [[sign .comma], [q.plain]],
        .many q.maybeDefault, sign .slash]
      (blame 5 "/ must be ahead of *"),
    alt [oneOrMore q.maybeDefault, sign .slash, sign .star]
      (blame 2 "expected comma between / and *")]

/-- Mistakes after a star. -/
def invalidStarPeg (q : ParameterPegs) (param : Peg) (close : Punct) (bareStar : Action) : Peg :=
  let plainOrComma := oneOf [[q.plain], [sign .comma]]
  .any [
    alt [sign .star, oneOf [[sign close], [sign .comma, oneOf [[sign close], [sign .doubleStar]]]]]
      bareStar,
    alt [sign .star, param, sign .equal]
      (blame 2 "var-positional argument cannot have default value"),
    alt [sign .star, plainOrComma, .many q.maybeDefault, sign .star, plainOrComma]
      (blame 3 "* argument may appear only once")]

/-- Mistakes after two stars. -/
def invalidKwdsPeg (param : Peg) : Peg :=
  .any [
    alt [sign .doubleStar, param, sign .equal]
      (blame 2 "var-keyword argument cannot have default value"),
    alt [sign .doubleStar, param, sign .comma, param]
      (blame 3 "arguments cannot follow var-keyword argument"),
    alt [sign .doubleStar, param, sign .comma,
        oneOf [[sign .star], [sign .doubleStar], [sign .slash]]]
      (blame 3 "arguments cannot follow var-keyword argument")]

private def lambdaPegs : ParameterPegs where
  plain := lambdaParamNoDefault
  withDefault := lambdaParamWithDefault
  maybeDefault := lambdaParamMaybeDefault
  slashPlain := lambdaSlashNoDefault
  slashWithDefault := lambdaSlashWithDefault
  starEtc := lambdaStarEtc

/-! ## The rules -/

def ExpressionRule.body : ExpressionRule → Peg
  | .expressions => tupled expression
  | .expression =>
    .any [
      mistake invalidExpression,
      mistake invalidLegacyExpression,
      alt [disjunction, word .if, disjunction, word .else, expression] (made .conditional []),
      is disjunction,
      is lambdef]
  | .expressionUnchecked =>
    .unchecked (.any [
      alt [disjunction, word .if, disjunction, word .else, expression] (made .conditional []),
      is disjunction,
      is lambdef])
  | .yieldExpr =>
    .any [
      alt [word .yield, word .from, expression] (made .yield []),
      alt [word .yield, .maybe starExpressions] (made .yield [])]
  | .starExpressions => tupled starExpression
  | .starExpression =>
    .any [alt [sign .star, bitwiseOr] (made .starred [1]), is expression]
  | .starNamedExpressions =>
    .any [alt [.gather (sign .comma) starNamedExpression, .maybe (sign .comma)] (pass 0)]
  | .starNamedExpression =>
    .any [alt [sign .star, bitwiseOr] (made .starred [1]), is namedExpression]
  | .assignmentExpression =>
    .any [alt [name, sign .walrus, .cut, expression] (made .named [])]
  | .namedExpression =>
    .any [
      is assignmentExpression,
      mistake invalidNamedExpression,
      alt [expression, .unless (sign .walrus)] (pass 0)]
  | .disjunction => joined .or conjunction
  | .conjunction => joined .and inversion
  | .inversion =>
    .any [alt [word .not, inversion] (made .operation []), is comparison]
  | .comparison =>
    .any [
      .mk [bitwiseOr, oneOrMore comparePair] fun xs =>
        .made (.comparison ((pick xs 1).parts.head?.any (·.form == .comparison true)))
          [pick xs 0],
      is bitwiseOr]
  | .comparePair =>
    .any [
      row [sign .equalEqual, bitwiseOr],
      row [sign .notEqual, bitwiseOr],
      row [sign .lessEqual, bitwiseOr],
      row [sign .less, bitwiseOr],
      row [sign .greaterEqual, bitwiseOr],
      row [sign .greater, bitwiseOr],
      row [word .not, word .in, bitwiseOr],
      alt [word .in, bitwiseOr] (made (.comparison true) []),
      row [word .is, word .not, bitwiseOr],
      row [word .is, bitwiseOr]]
  | .bitwiseOr => leftGrouped bitwiseXor [.vbar]
  | .bitwiseXor => leftGrouped bitwiseAnd [.caret]
  | .bitwiseAnd => leftGrouped shiftExpr [.amper]
  | .shiftExpr => leftGrouped sum [.shiftLeft, .shiftRight]
  | .sum => leftGrouped term [.plus, .minus]
  | .term => leftGrouped factor [.star, .slash, .doubleSlash, .percent, .atSign]
  | .factor =>
    .any [
      alt [sign .plus, factor] (made .operation []),
      alt [sign .minus, factor] (made .operation []),
      alt [sign .tilde, factor] (made .operation []),
      is power]
  | .power =>
    .any [alt [awaitPrimary, sign .doubleStar, factor] (made .operation []), is awaitPrimary]
  | .awaitPrimary =>
    .any [alt [word .await, primary] (made .await []), is primary]
  | .primary =>
    .chain atom [
      alt [sign .dot, name] (made .attribute []),
      alt [genExp] (made .call []),
      alt [sign .lparen, .maybe arguments, sign .rparen] (made .call []),
      alt [sign .lbracket, slices, sign .rbracket] (made .subscript [])]
  | .slices =>
    .any [
      alt [slice, .unless (sign .comma)] (pass 0),
      row [.gather (sign .comma) (oneOf [[slice], [starredExpression]]), .maybe (sign .comma)]]
  | .slice =>
    .any [
      row [.maybe expression, sign .colon, .maybe expression,
        .maybe (oneOf [[sign .colon, .maybe expression]])],
      is namedExpression]
  | .atom =>
    .any [
      is name,
      alt [word .true] (made (.constant "True") []),
      alt [word .false] (made (.constant "False") []),
      alt [word .none] (made (.constant "None") []),
      alt [.ahead string, strings] (pass 1),
      is .number,
      alt [.ahead (sign .lparen), .any [is tuple, is group, is genExp]] (pass 1),
      alt [.ahead (sign .lbracket), .any [is list, is listComp]] (pass 1),
      alt [.ahead (sign .lbrace), .any [is dict, is set, is dictComp, is setComp]] (pass 1),
      alt [sign .ellipsis] (made (.constant "ellipsis") [])]
  | .group =>
    .any [
      alt [sign .lparen, .any [is yieldExpr, is namedExpression], sign .rparen] (pass 1),
      mistake invalidGroup]
  | .strings => .strings
  | .list =>
    .any [alt [sign .lbracket, .maybe starNamedExpressions, sign .rbracket] (made .list [1])]
  | .tuple =>
    .any [
      alt [sign .lparen,
          .maybe (.any [alt [starNamedExpression, sign .comma, .maybe starNamedExpressions]
            (made .several [0, 2])]),
          sign .rparen]
        (made .tuple [1])]
  | .set =>
    .any [alt [sign .lbrace, starNamedExpressions, sign .rbrace] (made .set [])]
  | .dict =>
    .any [
      alt [sign .lbrace, .maybe doubleStarredPairs, sign .rbrace] (made .dict []),
      row [sign .lbrace, invalidDoubleStarredPairs, sign .rbrace]]
  | .doubleStarredPairs =>
    oneOf [[.gather (sign .comma) doubleStarredPair, .maybe (sign .comma)]]
  | .doubleStarredPair => oneOf [[sign .doubleStar, bitwiseOr], [pair]]
  | .pair => oneOf [[expression, sign .colon, expression]]
  | .forIfClauses => oneOrMore forIfClause
  | .forIfClause =>
    .any [
      row [word .async, word .for, starTargets, word .in, .cut, disjunction,
        .many (oneOf [[word .if, disjunction]])],
      row [word .for, starTargets, word .in, .cut, disjunction,
        .many (oneOf [[word .if, disjunction]])],
      mistake invalidForTarget]
  | .listComp =>
    .any [
      comprehension .lbracket namedExpression .rbracket .listComprehension,
      mistake invalidComprehension]
  | .setComp =>
    .any [
      comprehension .lbrace namedExpression .rbrace .setComprehension,
      mistake invalidComprehension]
  | .genExp =>
    .any [
      comprehension .lparen plainExpression .rparen .generator,
      mistake invalidComprehension]
  | .dictComp =>
    .any [
      comprehension .lbrace pair .rbrace .dictComprehension,
      mistake invalidDictComprehension]
  | .arguments =>
    .any [
      alt [args, .maybe (sign .comma), .ahead (sign .rparen)] (pass 0),
      mistake invalidArguments]
  | .args =>
    .any [
      alt [positionalArguments, .maybe (.any [alt [sign .comma, kwargs] (pass 1)])]
        (made .several [0, 1]),
      is kwargs]
  | .kwargs =>
    .any [
      alt [.gather (sign .comma) kwargOrStarred, sign .comma,
          .gather (sign .comma) kwargOrDoubleStarred]
        (made .several [0, 2]),
      is (.gather (sign .comma) kwargOrStarred),
      is (.gather (sign .comma) kwargOrDoubleStarred)]
  | .starredExpression =>
    .any [
      alt [sign .star, expression] (made .starred [1]),
      alt [sign .star] (complain "Invalid star expression")]
  | .kwargOrStarred =>
    .any [
      mistake invalidKwarg,
      alt [name, sign .equal, expression] (made .keyword []),
      is starredExpression]
  | .kwargOrDoubleStarred =>
    .any [
      mistake invalidKwarg,
      alt [name, sign .equal, expression] (made .keyword []),
      alt [sign .doubleStar, expression] (made .spread [])]
  | .lambdef =>
    .any [alt [word .lambda, .maybe lambdaParams, sign .colon, expression] (made .lambda [])]
  | .lambdaParams => .any [mistake invalidLambdaParameters, is lambdaParameters]
  | .lambdaParameters => parametersPeg lambdaPegs
  | .lambdaSlashNoDefault => slashPeg [oneOrMore lambdaParamNoDefault] .colon
  | .lambdaSlashWithDefault =>
    slashPeg [.many lambdaParamNoDefault, oneOrMore lambdaParamWithDefault] .colon
  | .lambdaStarEtc =>
    .any [
      mistake invalidLambdaStarEtc,
      row [sign .star, lambdaParamNoDefault, .many lambdaParamMaybeDefault, .maybe lambdaKwds],
      row [sign .star, sign .comma, oneOrMore lambdaParamMaybeDefault, .maybe lambdaKwds],
      is lambdaKwds]
  | .lambdaKwds =>
    .any [mistake invalidLambdaKwds, row [sign .doubleStar, lambdaParamNoDefault]]
  | .lambdaParamNoDefault => parameterPeg [lambdaParam] .colon
  | .lambdaParamWithDefault => parameterPeg [lambdaParam, default] .colon
  | .lambdaParamMaybeDefault => parameterPeg [lambdaParam, .maybe default] .colon
  | .lambdaParam => name
  | .default => .any [row [sign .equal, expression], mistake invalidDefault]
  | .starTargets =>
    .any [
      alt [starTarget, .unless (sign .comma)] (pass 0),
      alt [starTarget, .many (.any [alt [sign .comma, starTarget] (pass 1)]), .maybe (sign .comma)]
        (made .tuple [0, 1])]
  | .starTargetsListSeq => oneOf [[.gather (sign .comma) starTarget, .maybe (sign .comma)]]
  | .starTargetsTupleSeq =>
    oneOf [
      [starTarget, oneOrMore (oneOf [[sign .comma, starTarget]]), .maybe (sign .comma)],
      [starTarget, sign .comma]]
  | .starTarget =>
    .any [
      row [sign .star, oneOf [[.unless (sign .star), starTarget]]],
      is targetWithStarAtom]
  | .targetWithStarAtom =>
    .any (attributeOr targetPrimary (.unless targetLookahead) ++ [is starAtom])
  | .starAtom =>
    .any [
      is name,
      row [sign .lparen, targetWithStarAtom, sign .rparen],
      row [sign .lparen, .maybe starTargetsTupleSeq, sign .rparen],
      row [sign .lbracket, .maybe starTargetsListSeq, sign .rbracket]]
  | .singleTarget =>
    .any [
      is singleSubscriptAttributeTarget,
      is name,
      row [sign .lparen, singleTarget, sign .rparen]]
  | .singleSubscriptAttributeTarget =>
    .any (attributeOr targetPrimary (.unless targetLookahead))
  | .targetPrimary =>
    .chain (.any [alt [atom, .ahead targetLookahead] (pass 0)]) [
      row [sign .dot, name, .ahead targetLookahead],
      row [sign .lbracket, slices, sign .rbracket, .ahead targetLookahead],
      row [genExp, .ahead targetLookahead],
      row [sign .lparen, .maybe arguments, sign .rparen, .ahead targetLookahead]]
  | .targetLookahead => oneOf [[sign .lparen], [sign .lbracket], [sign .dot]]
  | .delTargets => oneOf [[.gather (sign .comma) delTarget, .maybe (sign .comma)]]
  | .delTarget =>
    .any (attributeOr targetPrimary (.unless targetLookahead) ++ [is delTargetAtom])
  | .delTargetAtom =>
    .any [
      is name,
      row [sign .lparen, delTarget, sign .rparen],
      row [sign .lparen, .maybe delTargets, sign .rparen],
      row [sign .lbracket, .maybe delTargets, sign .rbracket]]
  | .invalidArguments =>
    .any [
      alt [oneOf [[positionalArguments, sign .comma, kwargs], [kwargs]], sign .comma,
          .gather (sign .comma) (oneOf [[starredExpression, .unless (sign .equal)]])]
        (blame 1 "iterable argument unpacking follows keyword argument unpacking"),
      alt [expression, forIfClauses, sign .comma,
          .maybe (oneOf [[args], [expression, forIfClauses]])]
        (blame 0 "Generator expression must be parenthesized"),
      alt [name, sign .equal, expression, forIfClauses] (blame 0 meantEquality),
      alt [args, forIfClauses] blameGenerator,
      alt [args, sign .comma, expression, forIfClauses]
        (blame 2 "Generator expression must be parenthesized"),
      alt [args, sign .comma, args] blameOrder]
  | .invalidKwarg =>
    .any [
      alt [.any [
            alt [word .true] (made (.constant "True") []),
            alt [word .false] (made (.constant "False") []),
            alt [word .none] (made (.constant "None") [])],
          sign .equal]
        (blameTitle 0 "cannot assign to " ""),
      alt [name, sign .equal, expression, forIfClauses] (blame 0 meantEquality),
      alt [.unless (oneOf [[name, sign .equal]]), expression, sign .equal]
        (blame 1 "expression cannot contain assignment, perhaps you meant \"==\"?")]
  | .invalidExpression =>
    .any [
      .mk [.unless (oneOf [[name, string], [softKeyword]]),
          disjunction, expressionUnchecked, .maybe .bracketed] fun xs =>
        if isOldStatement (pick xs 1) || (pick xs 3).form == .absent then .refused
        else .wrong (pick xs 1).start (.misuse "invalid syntax. Perhaps you forgot a comma?"),
      alt [disjunction, word .if, disjunction, .unless (oneOf [[word .else], [sign .colon]])]
        (blame 0 "expected 'else' after 'if' expression")]
  | .invalidLegacyExpression =>
    .any [
      .mk [name, .unless (sign .lparen), starExpressions] fun xs =>
        match (pick xs 0).form with
        | .name id =>
          if isOldStatement (pick xs 0) then
            .wrong (pick xs 0).start (.misuse ("Missing parentheses in call to '" ++ id
              ++ "'. Did you mean " ++ id ++ "(...)?"))
          else .refused
        | _ => .refused]
  | .invalidNamedExpression =>
    .any [
      alt [expression, sign .walrus, expression]
        (blameTitle 0 "cannot use assignment expressions with " ""),
      alt [name, sign .equal, bitwiseOr, .unless (oneOf [[sign .equal], [sign .walrus]])]
        (blame 0 meantEquality),
      alt [.unless (oneOf [[list], [tuple], [genExp], [word .true], [word .none], [word .false]]),
          bitwiseOr, sign .equal, bitwiseOr, .unless (oneOf [[sign .equal], [sign .walrus]])]
        (blameTitle 1 "cannot assign to " " here. Maybe you meant '==' instead of '='?")]
  | .invalidComprehension =>
    .any [
      alt [bracketOrParenOrBrace, starredExpression, forIfClauses]
        (blame 1 "iterable unpacking cannot be used in comprehension"),
      alt [bracketOrBrace, starNamedExpression, sign .comma, starNamedExpressions, forIfClauses]
        (blame 1 "did you forget parentheses around the comprehension target?"),
      alt [bracketOrBrace, starNamedExpression, sign .comma, forIfClauses]
        (blame 1 "did you forget parentheses around the comprehension target?")]
  | .invalidDictComprehension =>
    .any [
      alt [sign .lbrace, sign .doubleStar, bitwiseOr, forIfClauses, sign .rbrace]
        (blame 1 "dict unpacking cannot be used in dict comprehension")]
  | .invalidGroup =>
    .any [
      alt [sign .lparen, starredExpression, sign .rparen]
        (blame 1 "cannot use starred expression here"),
      alt [sign .lparen, sign .doubleStar, expression, sign .rparen]
        (blame 1 "cannot use double starred expression here")]
  | .invalidDoubleStarredPairs =>
    .any [
      row [.gather (sign .comma) doubleStarredPair, sign .comma, invalidPair],
      alt [expression, sign .colon, sign .star, bitwiseOr]
        (blame 2 "cannot use a starred expression in a dictionary value"),
      alt [expression, sign .colon, .ahead (oneOf [[sign .rbrace], [sign .comma]])]
        (blame 1 "expression expected after dictionary key and ':'")]
  | .invalidPair =>
    .any [
      .mk [expression, .unless (sign .colon)] fun xs =>
        .wrong ⟨(pick xs 0).start.line, (pick xs 0).stop.column⟩
          (.misuse "':' expected after dictionary key"),
      alt [expression, sign .colon, sign .star, bitwiseOr]
        (blame 2 "cannot use a starred expression in a dictionary value"),
      alt [expression, sign .colon, .ahead (oneOf [[sign .rbrace], [sign .comma]])]
        (blame 1 "expression expected after dictionary key and ':'")]
  | .invalidForTarget =>
    .any [alt [.maybe (word .async), word .for, starExpressions] (blameTarget 2 .looped)]
  | .invalidDefault =>
    .any [
      alt [sign .equal, .ahead (oneOf [[sign .rparen], [sign .comma]])]
        (blame 0 "expected default value expression")]
  | .invalidLambdaParameters =>
    invalidParametersPeg lambdaPegs invalidLambdaParametersHelper
      (.gather (sign .comma) lambdaParam) "Lambda expression parameters cannot be parenthesized"
  | .invalidLambdaParametersHelper =>
    oneOf [[lambdaSlashWithDefault], [oneOrMore lambdaParamWithDefault]]
  | .invalidLambdaStarEtc =>
    invalidStarPeg lambdaPegs lambdaParam .colon (complain "named arguments must follow bare *")
  | .invalidLambdaKwds => invalidKwdsPeg lambdaParam

/-- Whether results of a rule are remembered. -/
def ExpressionRule.isRemembered : ExpressionRule → Bool
  | .expression | .starExpression | .disjunction | .conjunction | .inversion | .factor
  | .awaitPrimary | .strings | .arguments | .starTarget | .targetWithStarAtom | .delTarget
  | .invalidNamedExpression | .bitwiseOr | .bitwiseXor | .bitwiseAnd | .shiftExpr | .sum | .term
  | .primary | .targetPrimary => true
  | _ => false

end AwaitLint.Grammar.Diagnosis
