import AwaitLint.Digest.Sha256
import AwaitLint.Names
import AwaitLint.Settings
import AwaitLint.Text.Ranges
import AwaitLint.Text.Utf8

/-! # The key under which the result of a text is kept

It is a digest of everything that the result depends on: the text as it is, its file name, and the
settings of the rules. Each part ends in a zero byte.
-/

namespace AwaitLint

/-- The settings that change results, as one text. -/
def Settings.fingerprint (s : Settings) : String :=
  String.intercalate "|"
    [String.intercalate "," (sortedNames s.combinators), s.handlerPatterns, s.servicePatterns]

namespace CodeKey

/-- What is digested. A missing file name counts as an empty one. -/
def message (code : String) (filename : Option String) (ruleset : String) : List Nat :=
  [code, filename.getD "", ruleset].flatMap fun part => Text.encode part.toList ++ [0]

def ofRuleset (code : String) (filename : Option String) (ruleset : String) : String :=
  Text.hexOfBytes (Sha256.digest (message code filename ruleset))

def of (settings : Settings) (code : String) (filename : Option String) : String :=
  ofRuleset code filename settings.fingerprint

end CodeKey

end AwaitLint
