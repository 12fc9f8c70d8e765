import AwaitLint.Text.Ranges

/-! # Fresh identifiers -/

namespace AwaitLint

/-- A supply of numbers for identifiers: each is drawn once. -/
structure Tickets where
  next : Nat
  deriving DecidableEq, Repr, Inhabited

namespace Tickets

/-- A mark, a dash and so many hexadecimal digits. -/
def label (mark : String) (width n : Nat) : String := mark ++ "-" ++ Text.hexText width n

def draw (mark : String) (width : Nat) (t : Tickets) : String × Tickets :=
  (label mark width t.next, ⟨t.next + 1⟩)

/-- An identifier in the layout of a random UUID. -/
def uuid (n : Nat) : String :=
  String.intercalate "-" [Text.hexText 8 (n / Nat.pow 16 8), Text.hexText 4 0, "4" ++ Text.hexText 3 0,
    "8" ++ Text.hexText 3 0, Text.hexText 12 n]

def drawUuid (t : Tickets) : String × Tickets := (uuid t.next, ⟨t.next + 1⟩)

end Tickets

end AwaitLint
