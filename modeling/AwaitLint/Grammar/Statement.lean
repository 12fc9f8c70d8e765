import AwaitLint.Grammar.Diagnosis
import AwaitLint.Grammar.Pattern

/-! # Statements and whole texts -/

namespace AwaitLint.Grammar

open AwaitLint.Grammar.Parser

/-! ## Simple statements -/

/-- Assignments and expression statements. -/
def expressionStatement (r : Rules) (start : Mark) : Parser Node := do
  let first ← yieldOrExpressions r
  match ← peekKind with
  | .punct .colon =>
    if isSingleTarget first then
      advance
      let typeExpr ← r.expression
      let value ← if ← acceptPunct .equal then yieldOrExpressions r else pure .absent
      return .annAssign (← spanFrom start) first typeExpr value
    else fail
  | .punct .equal =>
    let (targets, value) ← loop (fun (acc : List Node × Node) => do
      if ← nextIsPunct .equal then
        if isStarTarget acc.2 then
          advance
          let next ← yieldOrExpressions r
          return .inl (acc.2 :: acc.1, next)
        else fail
      else return .inr (acc.1.reverse, acc.2)) ([], first)
    return .assign (← spanFrom start) targets value
  | .punct .augmented =>
    if isSingleTarget first then
      advance
      let value ← yieldOrExpressions r
      return .compound [first, value]
    else fail
  | _ => return .exprStmt (← spanFrom start) first

def deleteStatement (r : Rules) : Parser Node := do
  advance
  let item : Parser Node := do
    let x ← r.primary
    if isDeletable x then return x else fail
  let (targets, _) ← commaList (fun k => k != .punct .star && starTargets.startsTarget k) item
  match ← peekKind with
  | .punct .semicolon | .newline => return .compound targets
  | _ => fail

/-- Names with dots between them. -/
def dottedName : Parser Unit := do
  let _ ← name
  loop (fun _ => do
    if ← acceptPunct .dot then
      let _ ← name
      return .inl ()
    else return .inr ()) ()

def alias? : Parser Unit := do
  if ← acceptKeyword .as then
    let _ ← name
  return ()

/-- Items with commas between them and none at the end. -/
def strictList (item : Parser Unit) : Parser Unit := do
  item
  loop (fun _ => do
    if ← acceptPunct .comma then
      item
      return .inl ()
    else return .inr ()) ()

def importStatement : Parser Node := do
  advance
  strictList do
    dottedName
    alias?
  return .compound []

private def isNameToken : TokenKind → Bool
  | .name _ _ => true
  | _ => false

def fromStatement : Parser Node := do
  advance
  let dots ← loop (fun (n : Nat) => do
    match ← peekKind with
    | .punct .dot | .punct .ellipsis =>
      advance
      return .inl (n + 1)
    | _ => return .inr n) 0
  if dots = 0 || isNameToken (← peekKind) then dottedName
  expectKeyword .import
  let item : Parser Unit := do
    let _ ← name
    alias?
  if ← acceptPunct .star then return .compound []
  else if ← acceptPunct .lparen then
    let _ ← commaList isNameToken item
    expectPunct .rparen
    return .compound []
  else
    strictList item
    return .compound []

def simpleStatement (r : Rules) : Parser Node := do
  let start ← here
  match ← peekKind with
  | .keyword .return =>
    advance
    if startsStarred (← peekKind) then return .compound [← starExpressions r]
    else return .compound []
  | .keyword .import => importStatement
  | .keyword .from => fromStatement
  | .keyword .raise =>
    advance
    if startsExpression (← peekKind) then
      let x ← r.expression
      if ← acceptKeyword .from then return .compound [x, ← r.expression]
      else return .compound [x]
    else return .compound []
  | .keyword .pass | .keyword .break | .keyword .continue =>
    advance
    return .compound []
  | .keyword .del => deleteStatement r
  | .keyword .assert =>
    advance
    let x ← r.expression
    if ← acceptPunct .comma then return .compound [x, ← r.expression]
    else return .compound [x]
  | .keyword .global | .keyword .nonlocal =>
    advance
    strictList do
      let _ ← name
    return .compound []
  | _ => expressionStatement r start

/-- A line of statements with semicolons between them. -/
def simpleStatements (r : Rules) : Parser (List Node) := do
  let first ← simpleStatement r
  loop (fun (acc : List Node) => do
    if ← acceptPunct .semicolon then
      if ← accept .newline then return .inr acc.reverse
      else return .inl ((← simpleStatement r) :: acc)
    else
      expect .newline
      return .inr acc.reverse) [first]

/-! ## Compound statements -/

def elseBlock? (r : Rules) : Parser (List Node) := do
  if ← acceptKeyword .else then
    expectPunct .colon
    r.block
  else return []

/-- The condition and the block of one branch, after its keyword. -/
def branch (r : Rules) : Parser (Node × List Node) := do
  advance
  let test ← namedExpression r
  expectPunct .colon
  return (test, ← r.block)

/-- From `if` on. Later branches belong to the alternative of the ones before. -/
def ifStatement (r : Rules) : Parser Node := do
  let first ← branch r
  let branches ← loop (fun (acc : List (Node × List Node)) => do
    if ← nextIsKeyword .elif then return .inl ((← branch r) :: acc)
    else return .inr acc) [first]
  let alternative ← elseBlock? r
  match branches.foldl (fun rest b => [.compound (b.1 :: b.2 ++ rest)]) alternative with
  | x :: _ => return x
  | [] => fail

def whileStatement (r : Rules) : Parser Node := do
  let (test, body) ← branch r
  return .compound (test :: body ++ (← elseBlock? r))

def forStatement (r : Rules) : Parser Node := do
  expectKeyword .for
  let target ← starTargets r
  expectKeyword .in
  let source ← starExpressions r
  expectPunct .colon
  let body ← r.block
  return .compound (target :: source :: body ++ (← elseBlock? r))

def withItem (r : Rules) : Parser Node := do
  let x ← r.expression
  if ← acceptKeyword .as then
    let item : Parser Node := do
      let starred ← acceptPunct .star
      let y ← r.primary
      if isTarget y then return (if starred then .starred y else y) else fail
    let target ← item
    match ← peekKind with
    | .punct .comma | .punct .rparen | .punct .colon => return .compound [x, target]
    | _ => fail
  else return .compound [x, .absent]

/-- The items of a `with` statement in parentheses, or without. -/
def withItems (r : Rules) : Parser (List Node) :=
  orElse (do
    expectPunct .lparen
    let (items, _) ← commaList startsExpression (withItem r)
    expectPunct .rparen
    if ← nextIsPunct .colon then return items else fail)
  (do
    let first ← withItem r
    loop (fun (acc : List Node) => do
      if ← acceptPunct .comma then return .inl ((← withItem r) :: acc)
      else return .inr acc.reverse) [first])

def withStatement (r : Rules) : Parser Node := do
  expectKeyword .with
  let items ← withItems r
  expectPunct .colon
  return .compound (items ++ (← r.block))

/-- One handler. `group` tells whether it handles groups of exceptions. -/
def handler (r : Rules) (group : Bool) : Parser Node := do
  advance
  if group then expectPunct .star
  if !group && (← nextIsPunct .colon) then
    advance
    return .compound (← r.block)
  else
    let kind ← r.expression
    alias?
    expectPunct .colon
    return .compound (kind :: (← r.block))

def finallyBlock? (r : Rules) : Parser (List Node) := do
  if ← acceptKeyword .finally then
    expectPunct .colon
    r.block
  else return []

def tryStatement (r : Rules) : Parser Node := do
  expectKeyword .try
  expectPunct .colon
  let body ← r.block
  if ← nextIsKeyword .except then
    let group := (← peekSecond).kind == .punct .star
    let handlers ← loop (fun (acc : List Node) => do
      if ← nextIsKeyword .except then return .inl ((← handler r group) :: acc)
      else return .inr acc.reverse) []
    let alternative ← elseBlock? r
    let final ← finallyBlock? r
    return .compound (body ++ handlers ++ alternative ++ final)
  else if ← nextIsKeyword .finally then
    return .compound (body ++ (← finallyBlock? r))
  else fail

/-- A definition from the colon on. -/
def functionBody (r : Rules) (decorators : List Node) (async : Option Mark) (id : String)
    (params returns : Node) : Parser Node := do
  expectPunct .colon
  let body ← r.block
  match async with
  | some start => return .asyncDef 0 (← spanFrom start) id decorators params returns body
  | none => return .compound (params :: body ++ decorators ++ [returns])

/-- From `def` on. An async function starts at `start`. -/
def functionStatement (r : Rules) (decorators : List Node) (async : Option Mark) : Parser Node := do
  expectKeyword .define
  let id ← name
  expectPunct .lparen
  let params ← parameters r ⟨true, .rparen⟩
  expectPunct .rparen
  let returns ← if ← acceptPunct .arrow then r.expression else pure .absent
  functionBody r decorators async id params returns

def classStatement (r : Rules) (decorators : List Node) : Parser Node := do
  expectKeyword .classDef
  let _ ← name
  let (bases, keywords) ← if ← acceptPunct .lparen then do
      let a ← arguments r
      expectPunct .rparen
      pure a
    else pure ([], [])
  expectPunct .colon
  let body ← r.block
  return .compound (bases ++ keywords ++ body ++ decorators)

/-- From `async` on. -/
def asyncStatement (r : Rules) (decorators : List Node) : Parser Node := do
  let start ← here
  advance
  match ← peekKind with
  | .keyword .define => functionStatement r decorators (some start)
  | .keyword .for => if decorators.isEmpty then forStatement r else fail
  | .keyword .with => if decorators.isEmpty then withStatement r else fail
  | _ => fail

def decorated (r : Rules) : Parser Node := do
  let decorators ← loop (fun (acc : List Node) => do
    if ← acceptPunct .atSign then
      let x ← namedExpression r
      expect .newline
      return .inl (x :: acc)
    else return .inr acc.reverse) []
  match ← peekKind with
  | .keyword .define => functionStatement r decorators none
  | .keyword .classDef => classStatement r decorators
  | .keyword .async => asyncStatement r decorators
  | _ => fail

/-! ## Match statements -/

def subject (r : Rules) : Parser Node := do
  match ← commaList startsStarred (starNamedExpression r) with
  | ([x], false) => if isStarred x then fail else return x
  | (xs, _) => return .sequence xs

def caseBlock (r : Rules) : Parser Node := do
  if ← nextIsWord "case" then
    advance
    let pattern ← openSequence r
    let guard ← if ← acceptKeyword .if then namedExpression r else pure .absent
    expectPunct .colon
    return .compound (pattern :: guard :: (← r.block))
  else fail

/-- A `match` statement. The word is no keyword, so the line may turn out to be something else. -/
def matchStatement (r : Rules) : Parser Node := do
  advance
  let x ← subject r
  expectPunct .colon
  expect .newline
  expect .indent
  let first ← caseBlock r
  loop (fun (acc : List Node) => do
    if ← accept .dedent then return .inr (.compound (x :: acc.reverse))
    else return .inl ((← caseBlock r) :: acc)) [first]

/-! ## Blocks -/

def statement (r : Rules) : Parser (List Node) := do
  match ← peekKind with
  | .keyword .if => return [← ifStatement r]
  | .keyword .while => return [← whileStatement r]
  | .keyword .for => return [← forStatement r]
  | .keyword .with => return [← withStatement r]
  | .keyword .try => return [← tryStatement r]
  | .keyword .define => return [← functionStatement r [] none]
  | .keyword .classDef => return [← classStatement r []]
  | .keyword .async => return [← asyncStatement r []]
  | .punct .atSign => return [← decorated r]
  | .name _ _ =>
    if ← nextIsWord "match" then
      orElse (do return [← matchStatement r]) (simpleStatements r)
    else simpleStatements r
  | _ => simpleStatements r

/-- Statements up to a token of the given kind, which is taken. -/
def statementsUntil (close : TokenKind) (r : Rules) : Parser (List Node) := do
  let groups ← loop (fun (acc : List (List Node)) => do
    if ← accept close then return .inr acc.reverse
    else return .inl ((← statement r) :: acc)) []
  return groups.flatten

def blockRule (r : Rules) : Parser (List Node) := do
  if ← accept .newline then
    expect .indent
    statementsUntil .dedent r
  else simpleStatements r

/-- All rules, for texts that nest at most `depth` deep. -/
def rules : Nat → Rules
  | 0 => .none
  | depth + 1 =>
    { expression := fun s => expressionRule (rules depth) s
      disjunction := fun s => disjunctionRule (rules depth) s
      inversion := fun s => inversionRule (rules depth) s
      bitOr := fun s => bitOrRule (rules depth) s
      factor := fun s => factorRule (rules depth) s
      primary := fun s => primaryRule (rules depth) s
      pattern := fun s => patternRule (rules depth) s
      block := fun s => blockRule (rules depth) s }

/-! ## Whole texts -/

/-- The tree of a text. One that does not match is read again for what is wrong with it. -/
def parseText (text : List Char) : Except ParseError Node :=
  if text.contains '\x00' then .error ⟨1, 0, .nullBytes⟩
  else
    let complete := completeLines text
    let l := lex complete
    let depth := 2 * complete.length + 16
    match statementsUntil .endmarker (rules depth) ⟨l.tokens, ⟨1, 0, 0⟩, l.tokens.length + 1⟩ with
    | some (body, _) => .ok (Node.compound body).labelled
    | none => .error (Diagnosis.ofText l depth)

/-- The tree of the text of a file. A name with a zero is refused before the text is looked at. -/
def parseFile (name : String) (text : List Char) : Except ParseError Node :=
  if name.toList.contains '\x00' then .error ⟨1, 0, .nullInName⟩ else parseText text

theorem exists_of_isOk {ε α : Type} {x : Except ε α} (h : x.isOk = true) : ∃ a, x = .ok a := by
  cases x with
  | error e => simp [Except.isOk, Except.toBool] at h
  | ok a => exact ⟨a, rfl⟩

theorem parseFile_eq_ok {name : String} {text : List Char} {tree : Node} :
    parseFile name text = .ok tree ↔ '\x00' ∉ name.toList ∧ parseText text = .ok tree := by
  unfold parseFile
  by_cases h : '\x00' ∈ name.toList <;> simp [h]

theorem parseFile_of_zero {name : String} (h : '\x00' ∈ name.toList) (text : List Char) :
    parseFile name text = .error ⟨1, 0, .nullInName⟩ := by
  simp [parseFile, h]

theorem parseFile_of_not_mem {name : String} (h : '\x00' ∉ name.toList) (text : List Char) :
    parseFile name text = parseText text := by
  simp [parseFile, h]

end AwaitLint.Grammar
