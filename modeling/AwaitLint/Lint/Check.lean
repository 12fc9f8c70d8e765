import AwaitLint.FileTree
import AwaitLint.Lint.Event
import AwaitLint.Suggestion

/-! # Checking one file -/

namespace AwaitLint.Lint

/-- Why a file gives no findings. -/
inductive FileError
  | unreadable (e : ReadError)
  | syntaxError (e : Grammar.ParseError)

def FileError.message (path : Path) : FileError → String
  | unreadable e => "cannot read: " ++ e.message path
  | syntaxError e =>
      "syntax error at " ++ toString e.line ++ ":" ++ toString e.column ++ ": " ++ e.message

/-- What the analysis of a file is asked for; `force` runs every rule. -/
def requestFor (force : Bool) (path : Path) (code : String) : Request where
  code := code
  filename := some path.text
  eligibility := if force then some .everything else none

/-- The findings in a file. -/
def diagnose (settings : Settings) (t : FileTree) (force : Bool) (path : Path) :
    Except FileError (List Diagnostic) :=
  match t.readText path with
  | .error e => .error (.unreadable e)
  | .ok code =>
    match Analysis.run settings (requestFor force path code) with
    | .error e => .error (.syntaxError e)
    | .ok o => .ok o.diagnostics

/-- What is logged while a file is checked. -/
def events (settings : Settings) (t : FileTree) (force : Bool) (path : Path) : List Event :=
  match t.readText path with
  | .error _ => []
  | .ok code => Analysis.events settings (requestFor force path code)

/-- The merged suggestions for a file. -/
def check (settings : Settings) (t : FileTree) (force : Bool) (path : Path) (k : Tickets) :
    Except FileError (List Suggestion) × Tickets :=
  match diagnose settings t force path with
  | .error e => (.error e, k)
  | .ok ds =>
    let (ss, k) := Suggestion.report (some path.text) ds k
    (.ok ss, k)

/-- A suggestion on one line; columns count from one here. -/
def line (s : Suggestion) : String :=
  s.filename.getD "None" ++ ":" ++ toString s.line ++ ":" ++ toString (s.column + 1) ++ ": "
    ++ s.rule.text ++ " " ++ s.message

end AwaitLint.Lint
