import AwaitLint.Text.CharacterName.African
import AwaitLint.Text.CharacterName.Aliases
import AwaitLint.Text.CharacterName.American
import AwaitLint.Text.CharacterName.Ancient
import AwaitLint.Text.CharacterName.EastAsian
import AwaitLint.Text.CharacterName.European
import AwaitLint.Text.CharacterName.MiddleEastern
import AwaitLint.Text.CharacterName.Pictographs
import AwaitLint.Text.CharacterName.SouthAsian
import AwaitLint.Text.CharacterName.SoutheastAsian
import AwaitLint.Text.CharacterName.Symbols
import AwaitLint.Text.Ranges

/-! # Names of characters

Most names are listed. Ideographs, the characters of Khitan and Nushu and variation selectors are
numbered, a Braille pattern is named by its dots and a Hangul syllable is spelled by its letters.
-/

namespace AwaitLint.Text

/-- The listed names. Names with the same endings stand together: each of the first words goes with
each of the endings, which have commas between them. Two endings with two dots between them stand
for the numbers from one to the other. -/
def nameTables : List (List (List String × List String)) :=
  [europeanNames, middleEasternNames, africanNames, southAsianNames, southeastAsianNames,
    eastAsianNames, americanNames, symbolNames, ancientNames, pictographNames, aliasNames]

/-- What follows the start of a name. -/
def afterStart (start : String) (name : List Char) : Option (List Char) :=
  if start.toList.isPrefixOf name then some (name.drop start.length) else none

/-- What follows the first words of a name. -/
def afterStem (stem : String) (name : List Char) : Option (List Char) :=
  if stem = "" then some name else afterStart (stem ++ " ") name

/-- Numbers have the same width and the same letters before them. -/
def inRow (first last ending : List Char) : Bool :=
  ending.length == first.length
    && (first.zip ending).all (fun (a, b) => a == b || (a.isDigit && b.isDigit))
    && hexValue first ≤ hexValue ending && hexValue ending ≤ hexValue last

def fitsEntry (entry ending : List Char) : Bool :=
  match splitChar '.' entry with
  | [first, [], last] => inRow first last ending
  | _ => entry == ending

/-- Listed names may be written in any case. -/
def isListedName (name : List Char) : Bool :=
  let upper := name.map Char.toUpper
  nameTables.any fun table => table.any fun (stems, lines) =>
    stems.any fun stem =>
      match afterStem stem upper with
      | some ending =>
        lines.any fun line => (splitChar ',' line.toList).any fun entry => fitsEntry entry ending
      | none => false

private def unifiedIdeographs : List (Nat × Nat) :=
  [(0x3400, 0x4DBF), (0x4E00, 0x9FFF), (0x20000, 0x2A6DF), (0x2A700, 0x2B738), (0x2B740, 0x2B81D),
    (0x2B820, 0x2CEA1), (0x2CEB0, 0x2EBE0), (0x30000, 0x3134A)]

/-- Numbered characters whose names may be written in any case. -/
private def numberedFamilies : List (String × List (Nat × Nat)) :=
  [("CJK COMPATIBILITY IDEOGRAPH-", [(0xF900, 0xFA6D), (0xFA70, 0xFAD9), (0x2F800, 0x2FA1D)]),
    ("KHITAN SMALL SCRIPT CHARACTER-", [(0x18B00, 0x18CD5)]),
    ("NUSHU CHARACTER-", [(0x1B170, 0x1B2FB)])]

private def within (ranges : List (Nat × Nat)) (n : Nat) : Bool :=
  ranges.any fun (first, last) => first ≤ n && n ≤ last

private def isUpperHex (c : Char) : Bool := (hexDigit? c).isSome && c.toUpper == c

/-- An ideograph has four or five digits in upper case after its name. -/
def isIdeographName (name : List Char) : Bool :=
  match afterStart "CJK UNIFIED IDEOGRAPH-" name with
  | some digits => (digits.length == 4 || digits.length == 5) && digits.all isUpperHex
      && within unifiedIdeographs (hexValue digits)
  | none => false

/-- The digits of a numbered character have no zeros in front. -/
def isNumberedName (name : List Char) : Bool :=
  numberedFamilies.any fun (start, ranges) =>
    match afterStart start (name.map Char.toUpper) with
    | some digits => digits.all isUpperHex && digits.head? != some '0'
        && within ranges (hexValue digits)
    | none => false

/-- The dots of a pattern are counted from 1 to 8 and stand in order. -/
def isPatternName (name : List Char) : Bool :=
  match afterStart "BRAILLE PATTERN DOTS-" (name.map Char.toUpper) with
  | some dots => dots != [] && dots.all (fun d => '1' ≤ d && d ≤ '8')
      && decide (dots.Pairwise (· < ·))
  | none => false

/-- Variation selectors are counted from 1 to 256. -/
def isSelectorName (name : List Char) : Bool :=
  let upper := name.map Char.toUpper
  (List.range 256).any fun n =>
    let digits := (toString (n + 1)).toList
    upper == "VARIATION SELECTOR-".toList ++ digits || upper == 'V' :: 'S' :: digits

private def hangulLeads : List String :=
  ["G", "GG", "N", "D", "DD", "R", "M", "B", "BB", "S", "SS", "", "J", "JJ", "C", "K", "T", "P", "H"]

private def hangulVowels : List String :=
  ["A", "AE", "YA", "YAE", "EO", "E", "YEO", "YE", "O", "WA", "WAE", "OE", "YO", "U", "WEO", "WE",
    "WI", "YU", "EU", "YI", "I"]

private def hangulTails : List String :=
  ["", "G", "GG", "GS", "N", "NJ", "NH", "D", "L", "LG", "LM", "LB", "LS", "LT", "LP", "LH", "M",
    "B", "BS", "S", "SS", "NG", "J", "C", "K", "T", "P", "H"]

/-- A syllable has a vowel, and there may be consonants before and after it. -/
def isSyllableName (name : List Char) : Bool :=
  match afterStart "HANGUL SYLLABLE " name with
  | some letters => hangulLeads.any fun l => hangulVowels.any fun v => hangulTails.any fun t =>
      (l ++ v ++ t).toList == letters
  | none => false

def isCharacterName (name : List Char) : Bool :=
  isListedName name || isIdeographName name || isNumberedName name || isPatternName name
    || isSelectorName name || isSyllableName name

end AwaitLint.Text
