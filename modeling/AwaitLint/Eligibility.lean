import AwaitLint.Glob
import AwaitLint.Text.Blank
import AwaitLint.Text.Ranges

/-! # Which rules apply to a file -/

namespace AwaitLint

/-- The parts of a list that is written with commas, without blanks around them and without empty
ones. -/
def splitCsv (value : String) : List String :=
  ((Text.splitChar ',' value.toList).map fun part => String.ofList (Text.stripList part)).filter
    (· ≠ "")

structure Eligibility where
  waterfall : Bool
  runs : Bool
  deriving DecidableEq, Repr, Inhabited

namespace Eligibility

def everything : Eligibility := ⟨true, true⟩
def nothing : Eligibility := ⟨false, false⟩

def any (e : Eligibility) : Bool := e.waterfall || e.runs

/-- A file name with forward slashes and one at its start. -/
def normalizePath (filename : String) : String :=
  let cs := filename.toList.map fun c => if c = '\\' then '/' else c
  String.ofList (if cs.head? = some '/' then cs else '/' :: cs)

def matchesAny (filename patterns : String) : Bool :=
  (splitCsv patterns).any fun p => Glob.accepts p (normalizePath filename)

/-- A directive decides; without one a text without a name gets every rule, a handler every rule, and
a service the waterfall rule. -/
def resolve (filename directive : Option String) (handlers services : String) : Eligibility :=
  if directive = some "skip" then nothing
  else if directive = some "check" then everything
  else match filename with
    | none => everything
    | some name =>
      if name = "" then everything
      else
        let handler := matchesAny name handlers
        ⟨handler || matchesAny name services, handler⟩

end Eligibility

end AwaitLint
