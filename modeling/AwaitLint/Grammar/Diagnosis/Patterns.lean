import AwaitLint.Grammar.Diagnosis.Statements

/-! # Rules of `match` statements -/

namespace AwaitLint.Grammar.Diagnosis

open ExpressionRule StatementRule PatternRule

/-- What shows that a name is no capture. -/
private def captureStop : Peg := oneOf [[sign .dot], [sign .lparen], [sign .equal]]

private def signOfSum : Peg := oneOf [[sign .plus], [sign .minus]]

/-- Literals, alone or as keys. -/
private def literals : Peg :=
  oneOf [
    [signedNumber, .unless signOfSum],
    [complexNumber],
    [strings],
    [word .none],
    [word .true],
    [word .false]]

def PatternRule.body : PatternRule → Peg
  | .matchStmt =>
    .any [
      row [soft "match", subjectExpr, sign .colon, lineEnd, indent, oneOrMore caseBlock, dedent],
      mistake invalidMatchStmt]
  | .subjectExpr =>
    oneOf [[starNamedExpression, sign .comma, .maybe starNamedExpressions], [namedExpression]]
  | .caseBlock =>
    .any [
      mistake invalidCaseBlock,
      row [soft "case", patterns, .maybe guard, sign .colon, block]]
  | .guard => oneOf [[word .if, namedExpression]]
  | .patterns => .any [is openSequencePattern, is pattern]
  | .pattern => .any [is asPattern, is orPattern]
  | .asPattern =>
    .any [row [orPattern, word .as, captureTarget], mistake invalidAsPattern]
  | .orPattern => oneOf [[.gather (sign .vbar) closedPattern]]
  | .closedPattern =>
    oneOf [[literalPattern], [capturePattern], [wildcardPattern], [valuePattern], [groupPattern],
      [sequencePattern], [mappingPattern], [classPattern]]
  | .literalPattern => literals
  | .literalExpr => literals
  | .complexNumber => oneOf [[signedRealNumber, signOfSum, imaginaryNumber]]
  | .signedNumber => oneOf [[.number], [sign .minus, .number]]
  | .signedRealNumber => oneOf [[realNumber], [sign .minus, realNumber]]
  | .realNumber =>
    .any [.mk [.number] fun xs =>
      if (pick xs 0).form = .imaginary then .wrong (pick xs 0).start .realRequired
      else .same (pick xs 0)]
  | .imaginaryNumber =>
    .any [.mk [.number] fun xs =>
      if (pick xs 0).form = .imaginary then .same (pick xs 0)
      else .wrong (pick xs 0).start .imaginaryRequired]
  | .capturePattern => captureTarget
  | .captureTarget => oneOf [[.unless (soft "_"), name, .unless captureStop]]
  | .wildcardPattern => soft "_"
  | .valuePattern => oneOf [[attr, .unless captureStop]]
  | .attr => oneOf [[name, oneOrMore (oneOf [[sign .dot, name]])]]
  | .nameOrAttr => oneOf [[attr], [name]]
  | .groupPattern => oneOf [[sign .lparen, pattern, sign .rparen]]
  | .sequencePattern =>
    oneOf [
      [sign .lbracket, .maybe maybeSequencePattern, sign .rbracket],
      [sign .lparen, .maybe openSequencePattern, sign .rparen]]
  | .openSequencePattern => oneOf [[maybeStarPattern, sign .comma, .maybe maybeSequencePattern]]
  | .maybeSequencePattern => oneOf [[.gather (sign .comma) maybeStarPattern, .maybe (sign .comma)]]
  | .maybeStarPattern => .any [is starPattern, is pattern]
  | .starPattern => oneOf [[sign .star, captureTarget], [sign .star, wildcardPattern]]
  | .mappingPattern =>
    oneOf [
      [sign .lbrace, sign .rbrace],
      [sign .lbrace, doubleStarPattern, .maybe (sign .comma), sign .rbrace],
      [sign .lbrace, itemsPattern, sign .comma, doubleStarPattern, .maybe (sign .comma),
        sign .rbrace],
      [sign .lbrace, itemsPattern, .maybe (sign .comma), sign .rbrace]]
  | .itemsPattern => .gather (sign .comma) keyValuePattern
  | .keyValuePattern => oneOf [[oneOf [[literalExpr], [attr]], sign .colon, pattern]]
  | .doubleStarPattern => oneOf [[sign .doubleStar, captureTarget]]
  | .classPattern =>
    .any [
      row [nameOrAttr, sign .lparen, sign .rparen],
      row [nameOrAttr, sign .lparen, positionalPatterns, .maybe (sign .comma), sign .rparen],
      row [nameOrAttr, sign .lparen, keywordPatterns, .maybe (sign .comma), sign .rparen],
      row [nameOrAttr, sign .lparen, positionalPatterns, sign .comma, keywordPatterns,
        .maybe (sign .comma), sign .rparen],
      mistake invalidClassPattern]
  | .positionalPatterns => .gather (sign .comma) pattern
  | .keywordPatterns => .gather (sign .comma) keywordPattern
  | .keywordPattern => oneOf [[name, sign .equal, pattern]]
  | .invalidMatchStmt =>
    .any [
      alt [soft "match", subjectExpr, lineEnd] missingColon,
      alt [soft "match", subjectExpr, sign .colon, lineEnd, .unless indent]
        (missingBlock 0 "'match' statement")]
  | .invalidCaseBlock =>
    .any [
      alt [soft "case", patterns, .maybe guard, lineEnd] missingColon,
      alt [soft "case", patterns, .maybe guard, sign .colon, lineEnd, .unless indent]
        (missingBlock 0 "'case' statement")]
  | .invalidAsPattern =>
    .any [
      alt [orPattern, word .as, soft "_"] (blame 2 "cannot use '_' as a target"),
      alt [orPattern, word .as, .unless name, expression] (blame 3 "invalid pattern target")]
  | .invalidClassPattern =>
    .any [
      alt [nameOrAttr, sign .lparen, invalidClassArgumentPattern]
        (blame 2 "positional patterns follow keyword patterns")]
  | .invalidClassArgumentPattern =>
    .any [
      alt [.maybe (oneOf [[positionalPatterns, sign .comma]]), keywordPatterns, sign .comma,
          positionalPatterns]
        (pass 3)]

/-- Whether results of a rule are remembered. -/
def PatternRule.isRemembered : PatternRule → Bool
  | .closedPattern | .starPattern | .attr | .nameOrAttr => true
  | _ => false

end AwaitLint.Grammar.Diagnosis
