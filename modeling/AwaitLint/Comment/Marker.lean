import AwaitLint.Comment.Scan
import AwaitLint.Diagnostic
import AwaitLint.Text.Blank
import AwaitLint.Text.Case
import AwaitLint.Text.Word

/-! # Markers in comments

A header comment `# waterfall: check` or `# waterfall: skip` directs the whole file, and `# noqa`
silences the findings of its line, all of them or those with a listed code. Letters are compared
without case.
-/

namespace AwaitLint.Comment

/-- `c` is the letter `p`, in either case. The dotless i and the long s count as i and s. -/
def isLetter (p c : Char) : Bool :=
  let l := Text.lowerChar c
  l == p || (p == 'i' && l.toNat == 0x131) || (p == 's' && l.toNat == 0x17F)

/-- What follows a word, if the text starts with it. -/
def afterWord? : List Char → List Char → Option (List Char)
  | [], cs => some cs
  | p :: ps, c :: cs => if isLetter p c then afterWord? ps cs else none
  | _ :: _, [] => none

def skipBlanks (cs : List Char) : List Char := cs.dropWhile Text.isBlank

/-- The word at the start of the text, as it is written, if only blanks follow it. -/
def lastWord? (word : String) (cs : List Char) : Option (List Char) :=
  match afterWord? word.toList cs with
  | some rest => if rest.all Text.isBlank then some (cs.take word.length) else none
  | none => none

/-- The directive that a comment gives, in small letters. -/
def directiveOf? (comment : String) : Option String :=
  match Text.stripList comment.toList with
  | '#' :: cs =>
    match afterWord? "waterfall:".toList (skipBlanks cs) with
    | some rest =>
      let rest := skipBlanks rest
      ((lastWord? "check" rest).or (lastWord? "skip" rest)).map fun w =>
        Text.lower (String.ofList w)
    | none => none
  | _ => none

/-- The first directive of a header. -/
def readDirective (header : List String) : Option String := header.findSome? directiveOf?

def isCodeChar (c : Char) : Bool := Text.isWord c || c == '-'

/-- The codes after the first one, as long as a comma and a code follow; `fuel` bounds their
number. -/
def moreCodes : Nat → List Char → List (List Char)
  | 0, _ => []
  | fuel + 1, cs =>
    match skipBlanks cs with
    | ',' :: rest =>
      let code := (skipBlanks rest).takeWhile isCodeChar
      if code.isEmpty then []
      else code :: moreCodes fuel ((skipBlanks rest).dropWhile isCodeChar)
    | _ => []

/-- The codes after the marker; none stands for all. -/
def listedCodes (cs : List Char) : List (List Char) :=
  match cs with
  | ':' :: rest =>
    let start := skipBlanks rest
    let code := start.takeWhile isCodeChar
    if code.isEmpty then [] else code :: moreCodes start.length (start.dropWhile isCodeChar)
  | _ => []

/-- What follows a marker at the start of a text. -/
def afterMarker? : List Char → Option (List Char)
  | '#' :: cs =>
    match afterWord? "noqa".toList (skipBlanks cs) with
    | some rest => if rest.head?.any Text.isWord then none else some rest
    | none => none
  | _ => none

/-- The codes of the first marker of a comment, in small letters. -/
def markerCodes : List Char → Option (List (List Char))
  | [] => none
  | c :: cs =>
    match afterMarker? (c :: cs) with
    | some rest => some (listedCodes rest)
    | none => markerCodes cs

/-- `none` if the comment silences nothing; an empty list if it silences everything. -/
def noqaCodes (comment : String) : Option (List String) :=
  (markerCodes comment.toList).map fun codes => codes.map fun c => Text.lower (String.ofList c)

/-- Whether a comment silences a kind. -/
def silences (comment : String) (kind : Kind) : Bool :=
  match noqaCodes comment with
  | none => false
  | some codes => codes.isEmpty || codes.contains kind.text

def isSuppressed (comments : Comments) (d : Diagnostic) : Bool :=
  match comments.at? d.line with
  | none => false
  | some text => silences text d.kind

/-- The findings that no comment silences. -/
def unsuppressed (comments : Comments) (ds : List Diagnostic) : List Diagnostic :=
  ds.filter fun d => !isSuppressed comments d

end AwaitLint.Comment
