import AwaitLint.Grammar.Problem
import AwaitLint.Text.Utf8

/-! # Places in a text and the tokens found there -/

namespace AwaitLint.Grammar

/-- A place: the line from one, the column from zero in bytes and in characters. -/
structure Mark where
  line : Nat
  byte : Nat
  char : Nat
  deriving DecidableEq, Repr, Inhabited

/-- What is left of a text, from a place on. -/
structure Cursor where
  rest : List Char
  mark : Mark
  deriving Repr, Inhabited

namespace Mark

/-- The place after a character. -/
def step (m : Mark) (c : Char) : Mark :=
  if c = '\n' then ⟨m.line + 1, 0, 0⟩ else ⟨m.line, m.byte + Text.byteLength c, m.char + 1⟩

def advance (m : Mark) (cs : List Char) : Mark := cs.foldl step m

end Mark

namespace Cursor

/-- Moves over `n` characters. -/
def skip : Nat → Cursor → Cursor
  | 0, c => c
  | _ + 1, ⟨[], m⟩ => ⟨[], m⟩
  | n + 1, ⟨x :: xs, m⟩ => skip n ⟨xs, m.step x⟩

/-- Moves over the characters for which `p` holds. -/
def skipWhile (p : Char → Bool) (c : Cursor) : Cursor :=
  let taken := c.rest.takeWhile p
  ⟨c.rest.dropWhile p, c.mark.advance taken⟩

end Cursor

inductive Keyword
  | false | none | true | and | as | assert | async | await | break | classDef | continue | define
  | del | elif | else | except | finally | for | from | global | if | import | in | is | lambda
  | nonlocal | not | or | pass | raise | return | try | while | with | yield
  deriving DecidableEq, Repr

/-- The keyword that a word is. -/
def Keyword.ofWord? : List Char → Option Keyword
  | ['F', 'a', 'l', 's', 'e'] => some .false
  | ['N', 'o', 'n', 'e'] => some .none
  | ['T', 'r', 'u', 'e'] => some .true
  | ['a', 'n', 'd'] => some .and
  | ['a', 's'] => some .as
  | ['a', 's', 's', 'e', 'r', 't'] => some .assert
  | ['a', 's', 'y', 'n', 'c'] => some .async
  | ['a', 'w', 'a', 'i', 't'] => some .await
  | ['b', 'r', 'e', 'a', 'k'] => some .break
  | ['c', 'l', 'a', 's', 's'] => some .classDef
  | ['c', 'o', 'n', 't', 'i', 'n', 'u', 'e'] => some .continue
  | ['d', 'e', 'f'] => some .define
  | ['d', 'e', 'l'] => some .del
  | ['e', 'l', 'i', 'f'] => some .elif
  | ['e', 'l', 's', 'e'] => some .else
  | ['e', 'x', 'c', 'e', 'p', 't'] => some .except
  | ['f', 'i', 'n', 'a', 'l', 'l', 'y'] => some .finally
  | ['f', 'o', 'r'] => some .for
  | ['f', 'r', 'o', 'm'] => some .from
  | ['g', 'l', 'o', 'b', 'a', 'l'] => some .global
  | ['i', 'f'] => some .if
  | ['i', 'm', 'p', 'o', 'r', 't'] => some .import
  | ['i', 'n'] => some .in
  | ['i', 's'] => some .is
  | ['l', 'a', 'm', 'b', 'd', 'a'] => some .lambda
  | ['n', 'o', 'n', 'l', 'o', 'c', 'a', 'l'] => some .nonlocal
  | ['n', 'o', 't'] => some .not
  | ['o', 'r'] => some .or
  | ['p', 'a', 's', 's'] => some .pass
  | ['r', 'a', 'i', 's', 'e'] => some .raise
  | ['r', 'e', 't', 'u', 'r', 'n'] => some .return
  | ['t', 'r', 'y'] => some .try
  | ['w', 'h', 'i', 'l', 'e'] => some .while
  | ['w', 'i', 't', 'h'] => some .with
  | ['y', 'i', 'e', 'l', 'd'] => some .yield
  | _ => Option.none

/-- Punctuation; `augmented` covers the assigning operators, `stray` what no rule accepts. -/
inductive Punct
  | lparen | rparen | lbracket | rbracket | lbrace | rbrace
  | colon | comma | semicolon | dot | ellipsis | arrow | walrus | equal
  | plus | minus | star | doubleStar | slash | doubleSlash | percent | atSign
  | vbar | amper | caret | tilde | shiftLeft | shiftRight
  | less | greater | lessEqual | greaterEqual | equalEqual | notEqual
  | augmented | stray
  deriving DecidableEq, Repr

/-- The punctuation that starts a text, the longest that fits, and its length. -/
def Punct.read? : List Char → Option (Punct × Nat)
  | '*' :: '*' :: '=' :: _ => some (augmented, 3)
  | '/' :: '/' :: '=' :: _ => some (augmented, 3)
  | '<' :: '<' :: '=' :: _ => some (augmented, 3)
  | '>' :: '>' :: '=' :: _ => some (augmented, 3)
  | '.' :: '.' :: '.' :: _ => some (ellipsis, 3)
  | '!' :: '=' :: _ => some (notEqual, 2)
  | '%' :: '=' :: _ => some (augmented, 2)
  | '&' :: '=' :: _ => some (augmented, 2)
  | '*' :: '*' :: _ => some (doubleStar, 2)
  | '*' :: '=' :: _ => some (augmented, 2)
  | '+' :: '=' :: _ => some (augmented, 2)
  | '-' :: '=' :: _ => some (augmented, 2)
  | '-' :: '>' :: _ => some (arrow, 2)
  | '/' :: '/' :: _ => some (doubleSlash, 2)
  | '/' :: '=' :: _ => some (augmented, 2)
  | ':' :: '=' :: _ => some (walrus, 2)
  | '<' :: '<' :: _ => some (shiftLeft, 2)
  | '<' :: '=' :: _ => some (lessEqual, 2)
  | '<' :: '>' :: _ => some (stray, 2)
  | '=' :: '=' :: _ => some (equalEqual, 2)
  | '>' :: '=' :: _ => some (greaterEqual, 2)
  | '>' :: '>' :: _ => some (shiftRight, 2)
  | '@' :: '=' :: _ => some (augmented, 2)
  | '^' :: '=' :: _ => some (augmented, 2)
  | '|' :: '=' :: _ => some (augmented, 2)
  | '(' :: _ => some (lparen, 1)
  | ')' :: _ => some (rparen, 1)
  | '[' :: _ => some (lbracket, 1)
  | ']' :: _ => some (rbracket, 1)
  | '\x7b' :: _ => some (lbrace, 1)
  | '\x7d' :: _ => some (rbrace, 1)
  | ':' :: _ => some (colon, 1)
  | ',' :: _ => some (comma, 1)
  | ';' :: _ => some (semicolon, 1)
  | '.' :: _ => some (dot, 1)
  | '=' :: _ => some (equal, 1)
  | '+' :: _ => some (plus, 1)
  | '-' :: _ => some (minus, 1)
  | '*' :: _ => some (star, 1)
  | '/' :: _ => some (slash, 1)
  | '%' :: _ => some (percent, 1)
  | '@' :: _ => some (atSign, 1)
  | '|' :: _ => some (vbar, 1)
  | '&' :: _ => some (amper, 1)
  | '^' :: _ => some (caret, 1)
  | '~' :: _ => some (tilde, 1)
  | '<' :: _ => some (less, 1)
  | '>' :: _ => some (greater, 1)
  | _ => none

/-- What matters about a number: a pattern tells real from imaginary ones, and a decimal integer
may have too many digits to be read. -/
inductive NumberForm
  | real
  | imaginary
  | oversized (digits : Nat)
  deriving DecidableEq, Repr

inductive TokenKind
  /-- A name in its normal form; `verbatim` tells whether it was written so. -/
  | name (id : String) (verbatim : Bool)
  | keyword (k : Keyword)
  | number (form : NumberForm)
  | string (text : List Char)
  | punct (p : Punct)
  | newline
  | indent
  | dedent
  | endmarker
  deriving DecidableEq, Repr

/-- A token. An error at the token is reported at `column`, an error noticed when the token was the
last one read at `reach`; they differ for the tokens that have no text. -/
structure Token where
  kind : TokenKind
  start : Mark
  stop : Mark
  column : Nat
  reach : Nat
  deriving Repr

/-- An open bracket and its place. -/
structure Bracket where
  char : Char
  mark : Mark
  deriving DecidableEq, Repr

def Bracket.closes (b : Bracket) (c : Char) : Bool :=
  (b.char == '(' && c == ')') || (b.char == '[' && c == ']')
    || (b.char == '\x7b' && c == '\x7d')

def Bracket.neverClosed (b : Bracket) : ParseError :=
  ⟨b.mark.line, b.mark.char + 1, .neverClosed b.char⟩

/-- How the tokens of a text end: with the end of the text, or with a fault. A `pressing` fault is
reported even if the tokens before it already fail to parse. -/
inductive Ending
  | finished
  | insideBrackets
  | fault (error : ParseError) (pressing : Bool)
  deriving Repr

/-- The tokens of a text, how they end, and the brackets that are open there, innermost first. -/
structure Lexed where
  tokens : List Token
  ending : Ending
  brackets : List Bracket
  deriving Repr

end AwaitLint.Grammar
