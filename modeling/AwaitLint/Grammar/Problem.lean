/-! # Why a source text does not parse -/

namespace AwaitLint.Grammar

/-- The causes for which a text is refused. -/
inductive Problem
  | nullInName
  | nullBytes
  | invalidSyntax
  | neverClosed (bracket : Char)
  | unmatched (bracket : Char)
  | mismatched (closing opening : Char) (openedOn : Option Nat)
  | tooManyBrackets
  | expected (text : String)
  | expectedBlock (owner : String) (line : Nat)
  | expectedHandler
  | unexpectedIndent
  | unexpectedUnindent
  | unindentMismatch
  | mixedTabs
  | tooDeep
  | unterminatedString (line : Nat)
  | unterminatedTriple (line : Nat)
  | afterContinuation
  | unexpectedEnd
  | invalidCharacter (c : Char)
  | nonPrintable (c : Char)
  | invalidNumber (base : String)
  | invalidDigit (c : Char) (base : String)
  | leadingZeros
  | oversizedNumber (digits : Nat)
  | realRequired
  | imaginaryRequired
  | nonAsciiBytes
  | mixedBytes
  | badEscape (text : String)
  /-- Something wrong with the text of a formatted string. -/
  | formatted (text : String)
  /-- A construct that is no part of the language but is recognized. -/
  | misuse (text : String)
  /-- Something wrong with an expression inside a formatted string. -/
  | inFormatted (problem : Problem)
  deriving DecidableEq, Repr

/-- A code point in at least four hexadecimal digits. -/
def codePointText (c : Char) : String :=
  let digits := (Nat.toDigits 16 c.toNat).map Char.toUpper
  String.ofList (List.replicate (4 - digits.length) '0' ++ digits)

def Problem.message : Problem → String
  | nullInName => "embedded null character"
  | nullBytes => "source code string cannot contain null bytes"
  | invalidSyntax => "invalid syntax"
  | neverClosed b => "'" ++ b.toString ++ "' was never closed"
  | unmatched b => "unmatched '" ++ b.toString ++ "'"
  | mismatched closing opening openedOn =>
      "closing parenthesis '" ++ closing.toString ++ "' does not match opening parenthesis '"
        ++ opening.toString ++ "'" ++ match openedOn with
          | some n => " on line " ++ toString n
          | none => ""
  | tooManyBrackets => "too many nested parentheses"
  | expected text => "expected " ++ text
  | expectedBlock owner line =>
      "expected an indented block after " ++ owner ++ " on line " ++ toString line
  | expectedHandler => "expected 'except' or 'finally' block"
  | unexpectedIndent => "unexpected indent"
  | unexpectedUnindent => "unexpected unindent"
  | unindentMismatch => "unindent does not match any outer indentation level"
  | mixedTabs => "inconsistent use of tabs and spaces in indentation"
  | tooDeep => "too many levels of indentation"
  | unterminatedString n =>
      "unterminated string literal (detected at line " ++ toString n ++ ")"
  | unterminatedTriple n =>
      "unterminated triple-quoted string literal (detected at line " ++ toString n ++ ")"
  | afterContinuation => "unexpected character after line continuation character"
  | unexpectedEnd => "unexpected EOF while parsing"
  | invalidCharacter c => "invalid character '" ++ c.toString ++ "' (U+" ++ codePointText c ++ ")"
  | nonPrintable c => "invalid non-printable character U+" ++ codePointText c
  | invalidNumber base => "invalid " ++ base ++ " literal"
  | invalidDigit c base => "invalid digit '" ++ c.toString ++ "' in " ++ base ++ " literal"
  | leadingZeros => "leading zeros in decimal integer literals are not permitted; "
      ++ "use an 0o prefix for octal integers"
  | oversizedNumber digits =>
      "Exceeds the limit (4300 digits) for integer string conversion: value has "
        ++ toString digits ++ " digits; use sys.set_int_max_str_digits() to increase the limit"
        ++ " - Consider hexadecimal for huge integer literals to avoid decimal conversion limits."
  | realRequired => "real number required in complex literal"
  | imaginaryRequired => "imaginary number required in complex literal"
  | nonAsciiBytes => "bytes can only contain ASCII literal characters"
  | mixedBytes => "cannot mix bytes and nonbytes literals"
  | badEscape text => text
  | formatted text => "f-string" ++ text
  | misuse text => text
  | inFormatted problem => "f-string: " ++ problem.message

/-- A refused text: the place, with columns counted in characters from one, and the cause. -/
structure ParseError where
  line : Nat
  column : Nat
  problem : Problem
  deriving DecidableEq, Repr

def ParseError.message (e : ParseError) : String := e.problem.message

end AwaitLint.Grammar
