import AwaitLint.Grammar.Diagnosis.Piece
import AwaitLint.Grammar.Lexer
import AwaitLint.Grammar.Literal

/-! # Parsing expressions

A grammar is a parsing expression for each rule. Some of its alternatives are only tried when a text
is checked for mistakes; they match mistakes, and their actions report them. Results of some rules
are remembered for the place where they were tried.
-/

namespace AwaitLint.Grammar.Diagnosis

/-- The rules of expressions, with those for targets, arguments and parameters of a lambda. -/
inductive ExpressionRule
  | expressions | expression | expressionUnchecked
  | yieldExpr | starExpressions | starExpression
  | starNamedExpressions | starNamedExpression | assignmentExpression | namedExpression
  | disjunction | conjunction | inversion | comparison | comparePair
  | bitwiseOr | bitwiseXor | bitwiseAnd | shiftExpr | sum | term | factor | power
  | awaitPrimary | primary | slices | slice | atom | group | strings
  | list | tuple | set | dict | doubleStarredPairs | doubleStarredPair | pair
  | forIfClauses | forIfClause | listComp | setComp | genExp | dictComp
  | arguments | args | kwargs | starredExpression | kwargOrStarred | kwargOrDoubleStarred
  | lambdef | lambdaParams | lambdaParameters | lambdaSlashNoDefault | lambdaSlashWithDefault
  | lambdaStarEtc | lambdaKwds | lambdaParamNoDefault | lambdaParamWithDefault
  | lambdaParamMaybeDefault | lambdaParam | default
  | starTargets | starTargetsListSeq | starTargetsTupleSeq | starTarget | targetWithStarAtom
  | starAtom | singleTarget | singleSubscriptAttributeTarget | targetPrimary | targetLookahead
  | delTargets | delTarget | delTargetAtom
  | invalidArguments | invalidKwarg | invalidExpression | invalidLegacyExpression
  | invalidNamedExpression | invalidComprehension | invalidDictComprehension | invalidGroup
  | invalidDoubleStarredPairs | invalidPair | invalidForTarget | invalidDefault
  | invalidLambdaParameters | invalidLambdaParametersHelper | invalidLambdaStarEtc
  | invalidLambdaKwds
  deriving DecidableEq, Repr

/-- The rules of statements, with those for parameters of a function. -/
inductive StatementRule
  | file | statements | statement | simpleStmts | simpleStmt | compoundStmt
  | assignment | annotatedRhs | augAssign | returnStmt | raiseStmt | globalStmt | nonlocalStmt
  | delStmt | yieldStmt | assertStmt | importStmt | importName | importFrom | importFromTargets
  | importFromAsNames | importFromAsName | dottedAsNames | dottedAsName | dottedName
  | block | decorators | classDef | classDefRaw | functionDef | functionDefRaw
  | params | parameters | slashNoDefault | slashWithDefault | starEtc | kwds
  | paramNoDefault | paramNoDefaultStarAnnotated | paramWithDefault | paramMaybeDefault
  | param | paramStarAnnotated | annotated | starAnnotated
  | ifStmt | elifStmt | elseBlock | whileStmt | forStmt | withStmt | withItem
  | tryStmt | exceptBlock | exceptStarBlock | finallyBlock
  | invalidAssignment | invalidAnnAssignTarget | invalidDelStmt | invalidBlock
  | invalidParameters | invalidParametersHelper | invalidStarEtc | invalidKwds
  | invalidWithItem | invalidImportFromTargets | invalidWithStmt | invalidWithStmtIndent
  | invalidTryStmt | invalidExceptStmt | invalidFinallyStmt | invalidExceptStmtIndent
  | invalidExceptStarStmtIndent | invalidIfStmt | invalidElifStmt | invalidElseStmt
  | invalidWhileStmt | invalidForStmt | invalidDefRaw | invalidClassDefRaw
  deriving DecidableEq, Repr

/-- The rules of `match` statements. -/
inductive PatternRule
  | matchStmt | subjectExpr | caseBlock | guard | patterns | pattern | asPattern | orPattern
  | closedPattern | literalPattern | literalExpr | complexNumber | signedNumber
  | signedRealNumber | realNumber | imaginaryNumber | capturePattern | captureTarget
  | wildcardPattern | valuePattern | attr | nameOrAttr | groupPattern | sequencePattern
  | openSequencePattern | maybeSequencePattern | maybeStarPattern | starPattern
  | mappingPattern | itemsPattern | keyValuePattern | doubleStarPattern | classPattern
  | positionalPatterns | keywordPatterns | keywordPattern
  | invalidMatchStmt | invalidCaseBlock | invalidAsPattern | invalidClassPattern
  | invalidClassArgumentPattern
  deriving DecidableEq, Repr

inductive Rule
  | expression (r : ExpressionRule)
  | statement (r : StatementRule)
  | pattern (r : PatternRule)
  deriving DecidableEq, Repr

/-- What an alternative makes of the pieces that its items match. -/
inductive Outcome
  | made (form : Form) (parts : List Piece)
  | same (x : Piece)
  /-- The rule does not match, whatever its other alternatives are. -/
  | refused
  /-- An error at a place, or at the last token that was read. -/
  | wrong (place : Place) (problem : Problem)
  | wrongHere (problem : Problem)

abbrev Action := List Piece → Outcome

mutual

inductive Peg
  | token (accepts : TokenKind → Bool)
  | number
  | strings
  | call (r : Rule)
  | any (alternatives : List Alternative)
  /-- An item, and alternatives that continue it, given what there is so far as their first piece. -/
  | chain (first : Peg) (alternatives : List Alternative)
  | maybe (p : Peg)
  | many (p : Peg)
  | gather (separator p : Peg)
  | ahead (p : Peg)
  | unless (p : Peg)
  /-- A token in whose place nothing else may stand. -/
  | demand (kind : TokenKind) (text : String)
  /-- After this, no other alternative is tried. -/
  | cut
  /-- Tried only when a text is checked for mistakes. -/
  | checked (p : Peg)
  /-- Tried without checking for mistakes. -/
  | unchecked (p : Peg)
  /-- Whether the last token stands inside brackets. -/
  | bracketed

/-- Items in a row, and what is made of them. -/
inductive Alternative
  | mk (items : List Peg) (act : Action)

end

def Peg.isCut : Peg → Bool
  | .cut => true
  | _ => false

/-- How errors are reported: the column of a place, that of a token, that of the last token read, and
the problem itself. -/
structure Manner where
  column : Mark → Nat
  start : Token → Nat
  reach : Token → Nat
  problem : Problem → Problem

/-- What is wrong with a row of strings: a problem with one of them that is noticed after the last, a
problem at one of them, or an error in an expression inside one. -/
inductive StringFault
  | after (problem : Problem)
  | at (start : Mark) (problem : Problem)
  | inside (error : ParseError) (lexical : Bool)

/-- What is known of a text: its tokens, how many brackets are open after each of them, how they
end, how errors in it are reported, and what is wrong with a row of strings. -/
structure Source where
  tokens : Array Token
  levels : Array Nat
  lexed : Lexed
  manner : Manner
  stringFault : List Token → Option StringFault

/-- The state of a parse: the last token read, the results that are remembered for each token, and
whether the text is checked for mistakes. -/
structure Progress where
  far : Nat := 0
  memory : Array (List (Rule × Option (Piece × Nat)))
  checking : Bool

inductive Reply
  | found (x : Piece) (next : Nat)
  | missing
  /-- An error; `lexical` if it comes from splitting the text into tokens. -/
  | error (e : ParseError) (lexical : Bool)

/-- The reply of items in a row: `cut` tells whether the other alternatives are out. -/
inductive RowReply
  | found (xs : List Piece) (next : Nat)
  | missing (cut : Bool)
  | error (e : ParseError) (lexical : Bool)

namespace Source

def start (s : Source) (t : Token) : Place := ⟨t.start.line, s.manner.start t⟩

def stop (s : Source) (t : Token) : Place := ⟨t.stop.line, s.manner.column t.stop - 1⟩

/-- A piece from a token up to another, which is not part of it. -/
def piece (s : Source) (form : Form) (i next : Nat) (parts : List Piece) : Piece :=
  match s.tokens[i]?, s.tokens[next - 1]? with
  | some first, some last => .mk form (s.start first) (s.stop last) parts
  | _, _ => .mk form ⟨1, 0⟩ ⟨1, 0⟩ parts

/-- A piece of one token. -/
def single (s : Source) (form : Form) (t : Token) : Piece := .mk form (s.start t) (s.stop t) []

/-- The error for reading past the last token. -/
def endError (l : Lexed) : ParseError :=
  match l.ending, l.brackets with
  | .fault e _, _ => e
  | .insideBrackets, b :: _ => b.neverClosed
  | _, _ => ⟨1, 0, .unexpectedEnd⟩

def error (s : Source) (p : Place) (problem : Problem) : ParseError :=
  ⟨p.line, p.column, s.manner.problem problem⟩

/-- An error noticed when a token was the last one read. -/
def errorAfter (s : Source) (i : Nat) (problem : Problem) : ParseError :=
  match s.tokens[i]? with
  | some t => s.error ⟨t.start.line, s.manner.reach t⟩ problem
  | none => s.error ⟨1, 0⟩ problem

/-- Reads a token. -/
def read (s : Source) (i : Nat) (p : Progress) : Except ParseError Token × Progress :=
  match s.tokens[i]? with
  | some t => (.ok t, { p with far := max p.far i })
  | none => (.error (endError s.lexed), p)

/-- The strings that follow each other from a token on. `fuel` bounds their number. -/
def stringsAt (s : Source) : Nat → Nat → List Token
  | 0, _ => []
  | fuel + 1, i =>
    match s.tokens[i]? with
    | some t =>
      match t.kind with
      | .string _ => t :: stringsAt s fuel (i + 1)
      | _ => []
    | none => []

end Source

def Outcome.reply (s : Source) (start next : Nat) (p : Progress) : Outcome → Reply
  | .made form parts => .found (s.piece form start next parts) next
  | .same x => .found x next
  | .refused => .missing
  | .wrong place problem => .error (s.error place problem) false
  | .wrongHere problem => .error (s.errorAfter p.far problem) false

namespace Progress

def known? (p : Progress) (r : Rule) (i : Nat) : Option (Option (Piece × Nat)) :=
  (p.memory.getD i []).lookup r

def remember (p : Progress) (r : Rule) (i : Nat) (result : Option (Piece × Nat)) : Progress :=
  { p with memory := p.memory.modify i ((r, result) :: ·) }

end Progress

section Run

variable (s : Source) (body : Rule → Peg) (remembered : Rule → Bool)

/-- A row of strings, which must be sound. -/
def runStrings (i : Nat) (p : Progress) : Reply × Progress :=
  match s.read i p, s.stringsAt s.tokens.size i with
  | (.error e, p), _ => (.error e true, p)
  | (.ok _, p), [] => (.missing, p)
  | (.ok _, p), texts =>
    let next := i + texts.length
    match s.read next p with
    | (.error e, p) => (.error e true, p)
    | (.ok _, p) =>
      match s.stringFault texts with
      | some (.after problem) => (.error (s.errorAfter p.far problem) false, p)
      | some (.at start problem) =>
        (.error (s.error ⟨start.line, s.manner.column start⟩ problem) false, p)
      | some (.inside e lexical) => (.error e lexical, p)
      | none =>
        let formatted := texts.any fun t => match t.kind with
          | .string text => (Literal.split t.start text).formatted
          | _ => false
        (.found (s.piece (if formatted then .formatted else .literal) i next []) next, p)

mutual

/-- Tries an expression at a token; `fuel` bounds the depth. -/
def run : Nat → Peg → Nat → Progress → Reply × Progress
  | 0, _, _, p => (.missing, p)
  | _ + 1, .token accepts, i, p =>
    match s.read i p with
    | (.error e, p) => (.error e true, p)
    | (.ok t, p) =>
      if accepts t.kind then
        let form := match t.kind with
          | .name id _ => Form.name id
          | _ => .other
        (.found (s.single form t) (i + 1), p)
      else (.missing, p)
  | _ + 1, .number, i, p =>
    match s.read i p with
    | (.error e, p) => (.error e true, p)
    | (.ok t, p) =>
      match t.kind with
      | .number (.oversized n) =>
        (.error (s.error ⟨t.start.line, 0⟩ (.oversizedNumber n)) false, p)
      | .number form =>
        let form := if form = .imaginary then Form.imaginary else .literal
        (.found (s.single form t) (i + 1), p)
      | _ => (.missing, p)
  | _ + 1, .strings, i, p => runStrings s i p
  | fuel + 1, .call r, i, p =>
    match p.known? r i with
    | some (some (x, next)) => (.found x next, p)
    | some none => (.missing, p)
    | none =>
      match run fuel (body r) i p with
      | (.found x next, p) =>
        (.found x next, if remembered r then p.remember r i (some (x, next)) else p)
      | (.missing, p) => (.missing, if remembered r then p.remember r i none else p)
      | (.error e lexical, p) => (.error e lexical, p)
  | fuel + 1, .any alternatives, i, p => runAny fuel alternatives [] i i p
  | fuel + 1, .chain first alternatives, i, p =>
    match run fuel first i p with
    | (.found x next, p) => runChain fuel alternatives x i next p
    | other => other
  | fuel + 1, .maybe q, i, p =>
    match run fuel q i p with
    | (.missing, p) => (.found .nothing i, p)
    | other => other
  | fuel + 1, .many q, i, p => runMany fuel q [] i i p
  | fuel + 1, .gather separator q, i, p =>
    match run fuel q i p with
    | (.found x next, p) => runGather fuel separator q [x] i next p
    | other => other
  | fuel + 1, .ahead q, i, p =>
    match run fuel q i p with
    | (.found _ _, p) => (.found .nothing i, p)
    | other => other
  | fuel + 1, .unless q, i, p =>
    match run fuel q i p with
    | (.found _ _, p) => (.missing, p)
    | (.missing, p) => (.found .nothing i, p)
    | other => other
  | _ + 1, .demand kind text, i, p =>
    match s.read i p with
    | (.error e, p) => (.error e true, p)
    | (.ok t, p) =>
      if t.kind = kind then (.found (s.single .other t) (i + 1), p)
      else (.error (s.error (s.start t) (.expected text)) false, p)
  | _ + 1, .cut, i, p => (.found .nothing i, p)
  | fuel + 1, .checked q, i, p => if p.checking then run fuel q i p else (.missing, p)
  | fuel + 1, .unchecked q, i, p =>
    let (reply, p') := run fuel q i { p with checking := false }
    (reply, { p' with checking := p.checking })
  | _ + 1, .bracketed, i, p =>
    (if s.levels.getD (i - 1) 0 = 0 then .missing
      else .found (s.piece .other i i []) i, p)

/-- The first alternative that matches from `next` on, for a piece that starts at `i`. `before` are the
pieces that are there already. -/
def runAny : Nat → List Alternative → List Piece → Nat → Nat → Progress → Reply × Progress
  | 0, _, _, _, _, p => (.missing, p)
  | _, [], _, _, _, p => (.missing, p)
  | fuel + 1, .mk items act :: others, before, i, next, p =>
    match runRow fuel items before false next p with
    | (.found xs last, p) => ((act xs).reply s i last p, p)
    | (.missing cut, p) => if cut then (.missing, p) else runAny fuel others before i next p
    | (.error e lexical, p) => (.error e lexical, p)

/-- Items in a row; `acc` are the pieces before them, last first. -/
def runRow : Nat → List Peg → List Piece → Bool → Nat → Progress → RowReply × Progress
  | 0, _, _, cut, _, p => (.missing cut, p)
  | _, [], acc, _, i, p => (.found acc.reverse i, p)
  | fuel + 1, item :: items, acc, cut, i, p =>
    match run fuel item i p with
    | (.found x next, p) => runRow fuel items (x :: acc) (cut || item.isCut) next p
    | (.missing, p) => (.missing cut, p)
    | (.error e lexical, p) => (.error e lexical, p)

/-- Continues a piece as long as an alternative does. -/
def runChain : Nat → List Alternative → Piece → Nat → Nat → Progress → Reply × Progress
  | 0, _, x, _, next, p => (.found x next, p)
  | fuel + 1, alternatives, x, i, next, p =>
    match runAny fuel alternatives [x] i next p with
    | (.found y later, p) => runChain fuel alternatives y i later p
    | (.missing, p) => (.found x next, p)
    | (.error e lexical, p) => (.error e lexical, p)

def runMany : Nat → Peg → List Piece → Nat → Nat → Progress → Reply × Progress
  | 0, _, acc, i, next, p =>
    (.found (s.piece .several i next acc.reverse) next, p)
  | fuel + 1, q, acc, i, next, p =>
    match run fuel q next p with
    | (.found x later, p) => runMany fuel q (x :: acc) i later p
    | (.missing, p) => (.found (s.piece .several i next acc.reverse) next, p)
    | (.error e lexical, p) => (.error e lexical, p)

def runGather : Nat → Peg → Peg → List Piece → Nat → Nat → Progress → Reply × Progress
  | 0, _, _, acc, i, next, p =>
    (.found (s.piece .several i next acc.reverse) next, p)
  | fuel + 1, separator, q, acc, i, next, p =>
    match runRow fuel [separator, q] [] false next p with
    | (.found [_, x] later, p) => runGather fuel separator q (x :: acc) i later p
    | (.error e lexical, p) => (.error e lexical, p)
    | (_, p) => (.found (s.piece .several i next acc.reverse) next, p)

end

end Run

end AwaitLint.Grammar.Diagnosis
