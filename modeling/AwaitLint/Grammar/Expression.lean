import AwaitLint.Grammar.Lexer
import AwaitLint.Grammar.Literal

/-! # Expressions

Every rule takes the rules for smaller depths, so that nesting is bounded by a number chosen at the
start. Rules look one token ahead; a name is looked past for `:=` and `=`.
-/

namespace AwaitLint.Grammar

open AwaitLint.Grammar.Parser

/-- The rules that others fall back on after they have taken a token. -/
structure Rules where
  expression : Parser Node
  disjunction : Parser Node
  inversion : Parser Node
  bitOr : Parser Node
  factor : Parser Node
  primary : Parser Node
  pattern : Parser Node
  block : Parser (List Node)

def Rules.none : Rules where
  expression := fail
  disjunction := fail
  inversion := fail
  bitOr := fail
  factor := fail
  primary := fail
  pattern := fail
  block := fail

/-- Tokens that can start an expression. -/
def startsExpression : TokenKind → Bool
  | .name _ _ | .number _ | .string _ => true
  | .keyword k =>
    k == .none || k == .true || k == .false || k == .not || k == .lambda || k == .await
  | .punct p =>
    p == .lparen || p == .lbracket || p == .lbrace || p == .ellipsis || p == .minus || p == .plus
      || p == .tilde
  | _ => false

/-- Tokens that can start an expression or a starred one. -/
def startsStarred (k : TokenKind) : Bool := k == .punct .star || startsExpression k

/-- One item, or a tuple if there was a comma. -/
def tupleIf : List Node × Bool → Node
  | ([x], false) => x
  | (xs, _) => .sequence xs

/-! ## Targets -/

/-- A name, an attribute or an element, in parentheses or not. -/
def isSingleTarget : Node → Bool
  | .name _ | .attr _ _ | .subscript _ _ => true
  | _ => false

mutual

/-- What may be assigned to, and what may be listed in it. A starred target is not starred again. -/
def isTarget : Node → Bool
  | .name _ | .attr _ _ | .subscript _ _ => true
  | .sequence items => areTargets items
  | _ => false

def areTargets : List Node → Bool
  | [] => true
  | .starred x :: xs => isTarget x && areTargets xs
  | x :: xs => isTarget x && areTargets xs

end

mutual

/-- What may be deleted. -/
def isDeletable : Node → Bool
  | .name _ | .attr _ _ | .subscript _ _ => true
  | .sequence items => areDeletable items
  | _ => false

def areDeletable : List Node → Bool
  | [] => true
  | x :: xs => isDeletable x && areDeletable xs

end

/-- A target, or a starred one. -/
def isStarTarget : Node → Bool
  | .starred x => isTarget x
  | x => isTarget x

/-- A list of targets, up to a keyword or a sign that cannot belong to one. -/
def starTargets (r : Rules) : Parser Node := do
  let item : Parser Node := do
    let starred ← acceptPunct .star
    let x ← r.primary
    if isTarget x then return (if starred then .starred x else x) else fail
  return tupleIf (← commaList startsTarget item)
where
  startsTarget : TokenKind → Bool
    | .name _ _ | .number _ | .string _ => true
    | .keyword k => k == .none || k == .true || k == .false
    | .punct p => p == .star || p == .lparen || p == .lbracket || p == .lbrace || p == .ellipsis
    | _ => false

/-! ## Lists of expressions -/

/-- The name that the next tokens assign to on the way. -/
def inlineTarget? : Parser (Option String) := do
  match ← peekKind with
  | .name id _ => return if (← peekSecond).kind == .punct .walrus then some id else none
  | _ => return none

/-- An expression, or one that is assigned to a name on the way. -/
def namedExpression (r : Rules) : Parser Node := do
  match ← inlineTarget? with
  | some id =>
    advance
    advance
    return .walrus (.name id) (← r.expression)
  | none =>
    let e ← r.expression
    if ← nextIsPunct .walrus then fail else return e

def starNamedExpression (r : Rules) : Parser Node := do
  if ← acceptPunct .star then return .starred (← r.bitOr) else namedExpression r

def starExpression (r : Rules) : Parser Node := do
  if ← acceptPunct .star then return .starred (← r.bitOr) else r.expression

def starExpressions (r : Rules) : Parser Node := do
  return tupleIf (← commaList startsStarred (starExpression r))

/-- From `yield` on. -/
def yieldExpression (r : Rules) : Parser Node := do
  expectKeyword .yield
  if ← acceptKeyword .from then return .yield (← r.expression)
  else if startsStarred (← peekKind) then return .yield (← starExpressions r)
  else return .yield .absent

def yieldOrExpressions (r : Rules) : Parser Node := do
  if ← nextIsKeyword .yield then yieldExpression r else starExpressions r

/-! ## Comprehensions -/

def startsClause : TokenKind → Bool
  | .keyword k => k == .for || k == .async
  | _ => false

def clause (r : Rules) : Parser Node := do
  let _ ← acceptKeyword .async
  expectKeyword .for
  let target ← starTargets r
  expectKeyword .in
  let source ← r.disjunction
  let conditions ← loop (fun (acc : List Node) => do
    if ← acceptKeyword .if then return .inl ((← r.disjunction) :: acc)
    else return .inr acc.reverse) []
  return .clause target source conditions

/-- One clause or more. -/
def clauses (r : Rules) : Parser (List Node) := do
  let first ← clause r
  loop (fun (acc : List Node) => do
    if startsClause (← peekKind) then return .inl ((← clause r) :: acc)
    else return .inr acc.reverse) [first]

/-! ## Displays -/

def isStarred : Node → Bool
  | .starred _ => true
  | _ => false

/-- From an opening parenthesis on: a tuple, a group or a generator. -/
def parenthesized (r : Rules) : Parser Node := do
  expectPunct .lparen
  if ← acceptPunct .rparen then return .sequence []
  else if ← nextIsKeyword .yield then
    let y ← yieldExpression r
    expectPunct .rparen
    return y
  else
    let first ← starNamedExpression r
    if !isStarred first && startsClause (← peekKind) then
      let cs ← clauses r
      expectPunct .rparen
      return .comprehension [first] cs
    else if ← acceptPunct .comma then
      if startsStarred (← peekKind) then
        let (rest, _) ← commaList startsStarred (starNamedExpression r)
        expectPunct .rparen
        return .sequence (first :: rest)
      else
        expectPunct .rparen
        return .sequence [first]
    else if isStarred first then fail
    else
      expectPunct .rparen
      return first

/-- From an opening bracket on. -/
def bracketed (r : Rules) : Parser Node := do
  expectPunct .lbracket
  if ← acceptPunct .rbracket then return .sequence []
  else
    let first ← starNamedExpression r
    if !isStarred first && startsClause (← peekKind) then
      let cs ← clauses r
      expectPunct .rbracket
      return .comprehension [first] cs
    else
      let rest ← moreItems
      expectPunct .rbracket
      return .sequence (first :: rest)
where
  moreItems : Parser (List Node) := do
    if ← acceptPunct .comma then
      if startsStarred (← peekKind) then
        return (← commaList startsStarred (starNamedExpression r)).1
      else return []
    else return []

/-- A pair of a display, or a spread mapping, whose key is absent. -/
def dictItem (r : Rules) : Parser (Node × Node) := do
  if ← acceptPunct .doubleStar then return (.absent, ← r.bitOr)
  else
    let key ← r.expression
    expectPunct .colon
    return (key, ← r.expression)

def startsPair (k : TokenKind) : Bool := k == .punct .doubleStar || startsExpression k

def dictOf (items : List (Node × Node)) : Node :=
  .dict (items.map Prod.fst) (items.map Prod.snd)

/-- From an opening brace on: a mapping or a set. -/
def braced (r : Rules) : Parser Node := do
  expectPunct .lbrace
  if ← acceptPunct .rbrace then return .dict [] []
  else if ← nextIsPunct .doubleStar then
    let (items, _) ← commaList startsPair (dictItem r)
    expectPunct .rbrace
    return dictOf items
  else
    let inline ← inlineTarget?
    let first ← starNamedExpression r
    if !isStarred first && inline.isNone && (← nextIsPunct .colon) then
      advance
      let value ← r.expression
      if startsClause (← peekKind) then
        let cs ← clauses r
        expectPunct .rbrace
        return .comprehension [first, value] cs
      else if ← acceptPunct .comma then
        if startsPair (← peekKind) then
          let (items, _) ← commaList startsPair (dictItem r)
          expectPunct .rbrace
          return dictOf ((first, value) :: items)
        else
          expectPunct .rbrace
          return dictOf [(first, value)]
      else
        expectPunct .rbrace
        return dictOf [(first, value)]
    else if !isStarred first && startsClause (← peekKind) then
      let cs ← clauses r
      expectPunct .rbrace
      return .comprehension [first] cs
    else
      let rest ← bracketed.moreItems r
      expectPunct .rbrace
      return .operation (first :: rest)

/-! ## Calls and subscripts -/

/-- The arguments read so far, last first, and what may still come. -/
structure Arguments where
  positional : List Node := []
  keywords : List Node := []
  named : Bool := false
  spread : Bool := false

/-- One argument after those before it. -/
def argument (r : Rules) (a : Arguments) : Parser Arguments := do
  if ← acceptPunct .doubleStar then
    let v ← r.expression
    return { a with keywords := .keyword none v :: a.keywords, spread := true }
  else if ← nextIsPunct .star then
    if a.spread then fail
    else
      advance
      let v ← r.expression
      return { a with positional := .starred v :: a.positional }
  else
    match ← peekKind with
    | .name id _ =>
      if (← peekSecond).kind == .punct .equal then
        advance
        advance
        let v ← r.expression
        return { a with keywords := .keyword (some id) v :: a.keywords, named := true }
      else positional
    | _ => positional
where
  positional : Parser Arguments := do
    if a.named || a.spread then fail
    else
      let e ← namedExpression r
      if ← nextIsPunct .equal then fail
      else return { a with positional := e :: a.positional }

def startsArgument (k : TokenKind) : Bool := k == .punct .doubleStar || startsStarred k

/-- The arguments up to the closing parenthesis. -/
def moreArguments (r : Rules) (a : Arguments) : Parser Arguments :=
  loop (fun (a : Arguments) => do
    if ← acceptPunct .comma then
      if startsArgument (← peekKind) then return .inl (← argument r a)
      else return .inr a
    else return .inr a) a

def arguments (r : Rules) : Parser (List Node × List Node) := do
  if startsArgument (← peekKind) then
    let a ← moreArguments r (← argument r {})
    return (a.positional.reverse, a.keywords.reverse)
  else return ([], [])

/-- The arguments of a call, after the opening parenthesis. A generator may be the only one. -/
def callArguments (r : Rules) : Parser (List Node × List Node) := do
  if startsArgument (← peekKind) then
    let a ← argument r {}
    match a.positional, startsClause (← peekKind) with
    | [e], true =>
      if isStarred e then fail
      else
        let cs ← clauses r
        expectPunct .rparen
        return ([.comprehension [e] cs], [])
    | _, _ =>
      let a ← moreArguments r a
      expectPunct .rparen
      return (a.positional.reverse, a.keywords.reverse)
  else
    expectPunct .rparen
    return ([], [])

def startsSlice (k : TokenKind) : Bool := k == .punct .colon || startsStarred k

/-- One index or slice. -/
def slice (r : Rules) : Parser Node := do
  if ← nextIsPunct .star then
    advance
    return .starred (← r.expression)
  else if ← nextIsPunct .colon then bounds .absent
  else
    let inline ← inlineTarget?
    let first ← namedExpression r
    if inline.isNone && (← nextIsPunct .colon) then bounds first else return first
where
  bound : Parser Node := do
    if startsExpression (← peekKind) then r.expression else return .absent
  bounds (lower : Node) : Parser Node := do
    expectPunct .colon
    let upper ← bound
    if ← acceptPunct .colon then return .operation [lower, upper, ← bound]
    else return .operation [lower, upper, .absent]

/-- The indices up to the closing bracket. -/
def slices (r : Rules) : Parser Node := do
  match ← commaList startsSlice (slice r) with
  | ([.starred x], false) => return .sequence [.starred x]
  | items => return tupleIf items

/-! ## Parameters -/

/-- Parameters read so far, each list last first. -/
structure Parameters where
  positional : List Node := []
  rest : List Node := []
  named : List Node := []
  namedDefaults : List Node := []
  keywords : List Node := []
  defaults : List Node := []

/-- The parts in the order in which they are visited. -/
def Parameters.node (p : Parameters) : Node :=
  .compound (p.positional.reverse ++ p.rest ++ p.named.reverse ++ p.namedDefaults.reverse
    ++ p.keywords ++ p.defaults.reverse)

/-- The parameters of a function, `annotated`, or of a lambda. -/
structure ParameterRules where
  annotated : Bool
  close : Punct

def typeExpr (r : Rules) (k : ParameterRules) (starred : Bool) : Parser Node := do
  if k.annotated then
    if ← acceptPunct .colon then
      if starred then starExpression r else r.expression
    else return .absent
  else return .absent

def defaultValue? (r : Rules) : Parser (Option Node) := do
  if ← acceptPunct .equal then return some (← r.expression) else return none

/-- After a parameter: a comma, or the end. -/
def separator (k : ParameterRules) : Parser Unit := do
  if ← acceptPunct .comma then return ()
  else if ← nextIsPunct k.close then return ()
  else fail

def keywordRest (r : Rules) (k : ParameterRules) (p : Parameters) : Parser Parameters := do
  let id ← name
  let a ← typeExpr r k false
  separator k
  if ← nextIsPunct k.close then return { p with keywords := [.parameter id a] } else fail

/-- Parameters after the star. `need` tells that at least one has to follow. -/
def namedOnly (r : Rules) (k : ParameterRules) (need : Bool) (p : Parameters) :
    Parser Parameters :=
  loop (fun (acc : Bool × Parameters) => do
    let (need, p) := acc
    match ← peekKind with
    | .name id _ =>
      advance
      let a ← typeExpr r k false
      let d ← defaultValue? r
      separator k
      return .inl (false, { p with
        named := .parameter id a :: p.named
        namedDefaults := d.getD .absent :: p.namedDefaults })
    | .punct .doubleStar =>
      if need then fail
      else
        advance
        return .inr (← keywordRest r k p)
    | _ => if need then fail else return .inr p) (need, p)

def afterStar (r : Rules) (k : ParameterRules) (p : Parameters) : Parser Parameters := do
  if ← acceptPunct .comma then namedOnly r k true p
  else
    let id ← name
    let a ← typeExpr r k true
    separator k
    namedOnly r k false { p with rest := [.parameter id a] }

/-- The parameters up to the closing sign, which stays. A slash may come once, after a parameter;
after one default value all positional parameters need one. -/
def parameters (r : Rules) (k : ParameterRules) : Parser Node := do
  let p ← loop (fun (acc : Bool × Parameters) => do
    let (slashed, p) := acc
    match ← peekKind with
    | .name id _ =>
      advance
      let a ← typeExpr r k false
      let d ← defaultValue? r
      separator k
      match d, p.defaults with
      | none, _ :: _ => fail
      | d, _ => return .inl (slashed, { p with
          positional := .parameter id a :: p.positional
          defaults := d.toList ++ p.defaults })
    | .punct .slash =>
      if slashed || p.positional.isEmpty then fail
      else
        advance
        separator k
        return .inl (true, p)
    | .punct .star =>
      advance
      return .inr (← afterStar r k p)
    | .punct .doubleStar =>
      advance
      return .inr (← keywordRest r k p)
    | _ => return .inr p) (false, {})
  return p.node

def lambdaExpression (r : Rules) : Parser Node := do
  expectKeyword .lambda
  let p ← parameters r ⟨false, .colon⟩
  expectPunct .colon
  return .lambda p (← r.expression)

/-! ## Strings -/

/-- Reads the text of an expression inside a formatted string. -/
def parseFormatted (r : Rules) (start : Mark) (text : List Char) : Except Unit Node :=
  let tokens := (lexAt start (['('] ++ text ++ [')', '\n'])).tokens
  match starExpressions r ⟨tokens, start, tokens.length + 1⟩ with
  | some (node, _) => .ok node
  | none => .error ()

/-- The strings that follow each other, as one. -/
def strings (r : Rules) : Parser Node := do
  let tokens ← loop (fun (acc : List (Mark × List Char)) => do
    let t ← peek
    match t.kind with
    | .string text =>
      advance
      return .inl ((t.start, text) :: acc)
    | _ => return .inr acc.reverse) []
  let parts := tokens.map fun (start, text) => Literal.split start text
  let nodes ← parts.foldlM (fun (acc : List Node) p => do
    if p.formatted then
      match Literal.formattedFrom (parseFormatted r) p.raw (p.body.rest.length + 2) 0 [] p.body with
      | .ok (nodes, _) => return acc ++ nodes
      | .error _ => fail
    else match Literal.plainFault p with
      | some _ => fail
      | none => return acc) []
  if parts.any (·.bytes) && parts.any (!·.bytes) then fail
  else if parts.any (·.formatted) then return .operation nodes
  else return .constant

/-! ## From atoms to expressions -/

def numberLiteral (form : NumberForm) : Parser Node := do
  match form with
  | .oversized _ => fail
  | _ => return .constant

def atom (r : Rules) : Parser Node := do
  match ← peekKind with
  | .name id _ =>
    advance
    return .name id
  | .keyword .none | .keyword .true | .keyword .false | .punct .ellipsis =>
    advance
    return .constant
  | .number form =>
    advance
    numberLiteral form
  | .string _ => strings r
  | .punct .lparen => parenthesized r
  | .punct .lbracket => bracketed r
  | .punct .lbrace => braced r
  | _ => fail

/-- An atom with the attributes, calls and subscripts after it. -/
def primaryRule (r : Rules) : Parser Node := do
  loop (fun (x : Node) => do
    match ← peekKind with
    | .punct .dot =>
      advance
      return .inl (.attr x (← name))
    | .punct .lparen =>
      advance
      let (args, keywords) ← callArguments r
      return .inl (.call x args keywords)
    | .punct .lbracket =>
      advance
      let index ← slices r
      expectPunct .rbracket
      return .inl (.subscript x index)
    | _ => return .inr x) (← atom r)

def awaitPrimary (r : Rules) : Parser Node := do
  if ← nextIsKeyword .await then
    let start ← here
    advance
    let x ← primaryRule r
    return .await 0 (← spanFrom start) x
  else primaryRule r

def factorRule (r : Rules) : Parser Node := do
  match ← peekKind with
  | .punct .plus | .punct .minus | .punct .tilde =>
    advance
    return .operation [← r.factor]
  | _ =>
    let base ← awaitPrimary r
    if ← acceptPunct .doubleStar then return .operation [base, ← r.factor] else return base

/-- Operators that group to the left, loosest first. -/
def binaryLevels : List (List Punct) :=
  [[.vbar], [.caret], [.amper], [.shiftLeft, .shiftRight], [.plus, .minus],
    [.star, .slash, .doubleSlash, .percent, .atSign]]

def binary (operand : Parser Node) : List (List Punct) → Parser Node
  | [] => operand
  | ops :: levels => do
    let first ← binary operand levels
    loop (fun (x : Node) => do
      match ← peekKind with
      | .punct p =>
        if ops.contains p then
          advance
          return .inl (.operation [x, ← binary operand levels])
        else return .inr x
      | _ => return .inr x) first

def bitOrRule (r : Rules) : Parser Node := binary (factorRule r) binaryLevels

/-- Takes a comparison sign, if the next tokens are one. -/
def comparisonSign : Parser Bool := do
  match ← peekKind with
  | .punct p =>
    if p == .less || p == .greater || p == .lessEqual || p == .greaterEqual || p == .equalEqual
        || p == .notEqual then
      advance
      return true
    else return false
  | .keyword .in =>
    advance
    return true
  | .keyword .not =>
    advance
    expectKeyword .in
    return true
  | .keyword .is =>
    advance
    let _ ← acceptKeyword .not
    return true
  | _ => return false

def comparison (r : Rules) : Parser Node := do
  let first ← bitOrRule r
  loop (fun (acc : List Node) => do
    if ← comparisonSign then return .inl ((← bitOrRule r) :: acc)
    else match acc with
      | [x] => return .inr x
      | xs => return .inr (.operation xs.reverse)) [first]

def inversionRule (r : Rules) : Parser Node := do
  if ← acceptKeyword .not then return .operation [← r.inversion] else comparison r

/-- Operands joined by one keyword. -/
def joined (k : Keyword) (operand : Parser Node) : Parser Node := do
  let first ← operand
  loop (fun (acc : List Node) => do
    if ← acceptKeyword k then return .inl ((← operand) :: acc)
    else match acc with
      | [x] => return .inr x
      | xs => return .inr (.operation xs.reverse)) [first]

def disjunctionRule (r : Rules) : Parser Node := joined .or (joined .and (inversionRule r))

def expressionRule (r : Rules) : Parser Node := do
  if ← nextIsKeyword .lambda then lambdaExpression r
  else
    let body ← disjunctionRule r
    if ← acceptKeyword .if then
      let test ← disjunctionRule r
      expectKeyword .else
      return .conditional test body (← r.expression)
    else return body

end AwaitLint.Grammar
