import AwaitLint.Analysis
import AwaitLint.Log

/-! # What is logged about an analysis -/

namespace AwaitLint

/-- Something that an analysis tells on its way. -/
inductive Event
  | parseFailed (filename : Option String) (e : Grammar.ParseError)
  | scanStopped (s : Comment.Stop)
  | runsFound (function : String) (count : Nat)
  | suppressed (count : Nat)
  | noRule (filename : Option String)
  | found (filename : Option String) (count : Nat)
  | checked (files findings errors : Nat)

namespace Event

def shown (filename : Option String) : String :=
  match filename with
  | some name => if name = "" then "<snippet>" else name
  | none => "<snippet>"

def message : Event → String
  | parseFailed filename e =>
      "parse failed for " ++ shown filename ++ " at " ++ toString e.line ++ ":" ++ toString e.column
        ++ ": " ++ e.message
  | scanStopped s => "tokenize stopped early: " ++ s.message
  | runsFound function count => function ++ ": " ++ toString count ++ " independent await run(s)"
  | suppressed count => "noqa dropped " ++ toString count ++ " diagnostic(s)"
  | noRule filename => filename.getD "None" ++ ": no rule eligible, skipping walk"
  | found filename count => shown filename ++ ": " ++ toString count ++ " diagnostic(s)"
  | checked files findings errors =>
      "checked " ++ toString files ++ " file(s): " ++ toString findings ++ " finding(s), "
        ++ toString errors ++ " error(s)"

def level : Event → Log.Level
  | scanStopped _ | runsFound .. | suppressed _ | noRule _ => .debug
  | parseFailed .. | found .. | checked .. => .info

/-- Who tells it. -/
def logger : Event → String
  | parseFailed .. | noRule _ | found .. => "src.backend.analyzer.engine"
  | scanStopped _ | suppressed _ => "src.backend.analyzer.comments"
  | runsFound .. => "src.backend.analyzer.dependency_runs"
  | checked .. => "src.backend.cli"

def record (e : Event) : Log.Record := ⟨e.message, e.level, e.logger, none⟩

end Event

namespace Analysis

/-- The events of the scopes that were left, if runs were looked for. -/
def runEvents (e : Eligibility) (exits : List (Scope × Bool)) : List Event :=
  if e.runs then
    exits.filterMap fun (s, outermost) =>
      let count := (runsReport s outermost).length
      if count = 0 then none else some (.runsFound s.name count)
  else []

/-- The events of the analysis of a text that has been parsed. -/
def treeEvents (settings : Settings) (r : Request) (tree : Node) : List Event :=
  let comments := Comment.scan r.code.toList
  let e := eligibility settings r comments
  let stop := match comments.stopped with
    | some s => [Event.scanStopped s]
    | none => []
  if e.any then
    let walked := walk (watch settings r e) tree
    let all := walked.diagnostics.length
    let kept := (Comment.unsuppressed comments walked.diagnostics).length
    stop ++ runEvents e walked.exits
      ++ (if kept = all then [] else [.suppressed (all - kept)])
      ++ (if kept = 0 then [] else [.found r.filename kept])
  else stop ++ [.noRule r.filename]

/-- Everything that the analysis of a text tells, in order. -/
def events (settings : Settings) (r : Request) : List Event :=
  match parse r with
  | .error e => [.parseFailed r.filename e]
  | .ok tree => treeEvents settings r tree

end Analysis

end AwaitLint
