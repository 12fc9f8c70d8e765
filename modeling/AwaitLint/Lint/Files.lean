import AwaitLint.FileTree

/-! # Which files are checked -/

namespace AwaitLint.Lint

/-- Directories that hold no code of one's own. -/
def skippedDirectories : List String :=
  ["__pycache__", "node_modules", "venv", "env", "site-packages"]

def isSkipped (directory : String) : Bool :=
  ".".toList.isPrefixOf directory.toList || skippedDirectories.contains directory

/-- Whether an entry below a directory is checked: by its name, and by the names on the way. -/
def isChecked (steps : List String) : Bool :=
  (steps.getLast?.any fun name => ".py".toList.isSuffixOf name.toList) && !steps.dropLast.any isSkipped

/-- What is checked below a directory, in the order of paths. -/
def checkedBelow (t : FileTree) (place : List String) : List (List String) :=
  ((t.below place).filter isChecked).mergeSort Path.partsLe

/-- A directory stands for what is checked below it, everything else for itself. -/
def expand (t : FileTree) (p : Path) : List Path :=
  match t.directory? p with
  | some place => (checkedBelow t place).map p.below
  | none => [p]

def files (t : FileTree) (arguments : List String) : List Path :=
  arguments.flatMap fun a => expand t (.ofText a)

end AwaitLint.Lint
