import AwaitLint.Text.Printable
import AwaitLint.Text.Ranges

/-! # Texts in quotes, as messages show them -/

namespace AwaitLint.Text

/-- A text stands in single quotes, unless it has one and no double quote. -/
def quoteFor (cs : List Char) : Char := if cs.contains '\'' && !cs.contains '"' then '"' else '\''

/-- A character inside quotes; one that cannot be shown is written by its number. -/
def showChar (quote c : Char) : String :=
  if c = quote ∨ c = '\\' then String.ofList ['\\', c]
  else if c = '\n' then "\\n"
  else if c = '\r' then "\\r"
  else if c = '\t' then "\\t"
  else if isPrintable c then c.toString
  else if c.toNat < 0x100 then "\\x" ++ hexText 2 c.toNat
  else if c.toNat < 0x10000 then "\\u" ++ hexText 4 c.toNat
  else "\\U" ++ hexText 8 c.toNat

def quoted (s : String) : String :=
  let quote := quoteFor s.toList
  quote.toString ++ String.join (s.toList.map (showChar quote)) ++ quote.toString

end AwaitLint.Text
