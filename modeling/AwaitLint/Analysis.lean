import AwaitLint.Comment.Marker
import AwaitLint.Grammar.Statement
import AwaitLint.Settings
import AwaitLint.Summary
import AwaitLint.Tracker

/-! # The analysis of one source text -/

namespace AwaitLint

/-- What an analysis finds. -/
structure Outcome where
  diagnostics : List Diagnostic
  eligibility : Eligibility
  functions : List FunctionSummary
  deriving Repr, Inhabited

/-- What an analysis is asked for. Without an eligibility the file name and the header decide;
without combinators the settings do. -/
structure Request where
  code : String
  filename : Option String := none
  eligibility : Option Eligibility := none
  combinators : Option (List String) := none

namespace Analysis

/-- The policies of the rules that apply. -/
def policies (e : Eligibility) : List Policy :=
  (if e.waterfall then [.waterfall] else []) ++ (if e.runs then [.runs] else [])

def eligibility (settings : Settings) (r : Request) (comments : Comment.Comments) : Eligibility :=
  r.eligibility.getD (Eligibility.resolve r.filename (Comment.readDirective comments.header)
    settings.handlerPatterns settings.servicePatterns)

def watch (settings : Settings) (r : Request) (e : Eligibility) : Watch :=
  ⟨policies e, r.combinators.getD settings.combinators⟩

/-- The walk over a tree; it is left out if no rule applies. -/
def walk (w : Watch) (tree : Node) : Tracker :=
  if w.policies.isEmpty then {} else (({} : Tracker).run w tree).1

/-- The findings in a tree that no comment silences, in reading order. -/
def findings (w : Watch) (comments : Comment.Comments) (tree : Node) : List Diagnostic :=
  Diagnostic.sort (Comment.unsuppressed comments (walk w tree).diagnostics)

/-- The analysis of a text that has been parsed. -/
def ofTree (settings : Settings) (r : Request) (tree : Node) : Outcome :=
  let comments := Comment.scan r.code.toList
  let e := eligibility settings r comments
  ⟨findings (watch settings r e) comments tree, e, tree.summary⟩

/-- The tree of the text that is asked about. -/
def parse (r : Request) : Except Grammar.ParseError Node :=
  Grammar.parseFile (r.filename.getD "") r.code.toList

/-- Analyzes a text, or says why it does not parse. -/
def run (settings : Settings) (r : Request) : Except Grammar.ParseError Outcome :=
  (parse r).map (ofTree settings r)

end Analysis

end AwaitLint
