import AwaitLint.Lint.Arguments
import AwaitLint.Lint.Check
import AwaitLint.Lint.Files
import AwaitLint.Result.Codec

/-! # A run of the command line -/

namespace AwaitLint.Lint

/-- What is written to standard output. -/
inductive Output
  | lines (texts : List String)
  | document (value : Json)

/-- A line on standard error. -/
inductive Notice
  | text (line : String)
  | record (r : Log.Record)

/-- How a run ends: by itself with a code, or early. -/
inductive Ending
  | code (n : Nat)
  | exit (n : Nat)
  deriving DecidableEq, Repr

structure Outcome where
  ending : Ending
  output : Output
  notices : List Notice

/-- What has been found so far: how many files were checked, the suggestions in order, and the errors
by path. -/
structure Summary where
  checked : Nat := 0
  findings : List Suggestion := []
  errors : List (String × String) := []
  deriving Repr

namespace Summary

/-- Notes an error; a path that has one already keeps its place. -/
def noteError (path message : String) (s : Summary) : Summary :=
  { s with errors :=
      if s.errors.any (·.1 == path) then
        s.errors.map fun e => if e.1 == path then (path, message) else e
      else s.errors ++ [(path, message)] }

def addFile (path : Path) (result : Except FileError (List Suggestion)) (s : Summary) : Summary :=
  let s := { s with checked := s.checked + 1 }
  match result with
  | .ok ss => { s with findings := s.findings ++ ss }
  | .error e => s.noteError path.text (e.message path)

/-- 2 if something could not be checked, 1 if something was found. -/
def exitCode (s : Summary) : Nat :=
  if s.errors ≠ [] then 2 else if s.findings ≠ [] then 1 else 0

def toJson (s : Summary) : Json :=
  .obj [("checked", .int s.checked), ("suggestions", .arr (s.findings.map Suggestion.toJson)),
    ("errors", .obj (s.errors.map fun (path, message) => (path, .str message)))]

def event (s : Summary) : Event := .checked s.checked s.findings.length s.errors.length

end Summary

/-- Checks files one after another. -/
def checkAll (settings : Settings) (t : FileTree) (force : Bool) :
    List Path → Tickets → Summary → Summary
  | [], _, s => s
  | p :: ps, k, s =>
    let (result, k) := check settings t force p k
    checkAll settings t force ps k (s.addFile p result)

def summarize (settings : Settings) (t : FileTree) (a : Arguments) (k : Tickets) : Summary :=
  checkAll settings t a.force (files t a.paths) k {}

/-- The output for a summary. -/
def output (json : Bool) (s : Summary) : Output :=
  if json then .document s.toJson else .lines (s.findings.map line)

/-- The errors go to standard error unless they are part of the document. -/
def errorNotices (json : Bool) (s : Summary) : List Notice :=
  if json then [] else s.errors.map fun (path, message) => .text (path ++ ": " ++ message)

def logNotices (threshold : Log.Level) (es : List Event) : List Notice :=
  (Log.written threshold (es.map Event.record)).map .record

/-- A run with arguments that were understood. -/
def runWith (settings : Settings) (t : FileTree) (k : Tickets) (a : Arguments) :
    Except Log.SetupError Outcome := do
  let threshold ← Log.threshold a.logLevel
  let s := summarize settings t a k
  return {
    ending := .code s.exitCode
    output := output a.json s
    notices := logNotices threshold ((files t a.paths).flatMap (events settings t a.force))
      ++ errorNotices a.json s ++ logNotices threshold [s.event] }

/-- A run of the command line over a file tree. -/
def run (settings : Settings) (t : FileTree) (k : Tickets) (argv : List String) :
    Except Log.SetupError Outcome :=
  match Arguments.read argv with
  | .ok a => runWith settings t k a
  | .error .help => .ok ⟨.exit 0, .lines help, []⟩
  | .error (.refused e) =>
    .ok ⟨.exit 2, .lines [], (usage ++ [programName ++ ": error: " ++ e.message]).map .text⟩

end AwaitLint.Lint
