import AwaitLint.Text.Ranges

/-! # Paths -/

namespace AwaitLint

/-- A path: what it starts with, if it is absolute, and its parts. Parts are never empty or a single
dot. -/
structure Path where
  root : String
  parts : List String
  deriving DecidableEq, Repr, Inhabited

namespace Path

/-- Exactly two slashes in front are a root of their own. -/
def rootOf (cs : List Char) : String :=
  match (cs.takeWhile (· == '/')).length with
  | 0 => ""
  | 2 => "//"
  | _ => "/"

/-- Doubled slashes and single dots do not count. -/
def ofText (text : String) : Path where
  root := rootOf text.toList
  parts := ((Text.splitChar '/' text.toList).map String.ofList).filter fun p => p ≠ "" ∧ p ≠ "."

/-- The text of a path; the empty one is a dot. -/
def text (p : Path) : String :=
  if p.root = "" ∧ p.parts = [] then "." else p.root ++ String.intercalate "/" p.parts

/-- The steps from the working directory; an absolute path starts with its root. -/
def steps (p : Path) : List String := if p.root = "" then p.parts else p.root :: p.parts

def below (p : Path) (rest : List String) : Path := { p with parts := p.parts ++ rest }

/-- Lists of parts are compared part by part. -/
def partsLe : List String → List String → Bool
  | [], _ => true
  | _ :: _, [] => false
  | a :: as, b :: bs => if a = b then partsLe as bs else decide (a < b)

end Path

end AwaitLint
