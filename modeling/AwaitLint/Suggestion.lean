import AwaitLint.Rule
import AwaitLint.Ticket

/-! # Suggestions: findings with their weight and their text -/

namespace AwaitLint

structure Suggestion where
  id : String
  rule : Kind
  message : String
  severity : Int
  confidence : Binary64
  score : Binary64
  filename : Option String
  line : Int
  column : Int
  endLine : Int
  endColumn : Int
  deriving DecidableEq, Repr, Inhabited

namespace Suggestion

/-- The suggestion for a finding, not scored yet. -/
def ofDiagnostic (id : String) (filename : Option String) (d : Diagnostic) : Suggestion where
  id := id
  rule := d.kind
  message := Rule.message d.kind d.line
  severity := (Rule.ofKind d.kind).severity
  confidence := (Rule.ofKind d.kind).confidence
  score := .zero
  filename := filename
  line := d.line
  column := d.column
  endLine := d.endLine
  endColumn := d.endColumn

/-- One suggestion per finding, each with an identifier of its own. -/
def ofDiagnostics (filename : Option String) : List Diagnostic → Tickets → List Suggestion × Tickets
  | [], t => ([], t)
  | d :: ds, t =>
    let (id, t) := t.draw (Rule.ofKind d.kind).mark 8
    let (rest, t) := ofDiagnostics filename ds t
    (ofDiagnostic id filename d :: rest, t)

/-- A fifth of the severity times the confidence, to four places. -/
def scoreOf (severity : Int) (confidence : Binary64) : Binary64 :=
  (((Binary64.ofInt severity).divNat 5).mul confidence).roundPlaces 4

def scored (s : Suggestion) : Suggestion := { s with score := scoreOf s.severity s.confidence }

/-- Suggestions with one key are about the same thing. -/
def key (s : Suggestion) : Option String × Kind × Int × Int := (s.filename, s.rule, s.line, s.column)

/-- More severe, or as severe and surer. -/
def better (s t : Suggestion) : Bool :=
  if s.severity ≠ t.severity then decide (t.severity < s.severity) else t.confidence.lt s.confidence

/-- Adds a suggestion: a new key comes last, a known one keeps its place and the better suggestion. -/
def insert (s : Suggestion) : List Suggestion → List Suggestion
  | [] => [s]
  | t :: ts => if s.key = t.key then (if better s t then s else t) :: ts else t :: insert s ts

def distinct (ss : List Suggestion) : List Suggestion := ss.foldl (fun found s => insert s found) []

/-- The order of a report: file, line, column; on one spot the higher score first, then the rule with
the higher priority. -/
def le (s t : Suggestion) : Bool :=
  let f := s.filename.getD ""
  let g := t.filename.getD ""
  if f ≠ g then decide (f < g)
  else if s.line ≠ t.line then decide (s.line < t.line)
  else if s.column ≠ t.column then decide (s.column < t.column)
  else if !s.score.eq t.score then t.score.lt s.score
  else decide (Rule.priority t.rule ≤ Rule.priority s.rule)

/-- Scores suggestions, keeps the best of each key, and puts them in the order of a report. -/
def merge (ss : List Suggestion) : List Suggestion := (distinct (ss.map scored)).mergeSort le

/-- The merged suggestions for findings. -/
def report (filename : Option String) (ds : List Diagnostic) (t : Tickets) :
    List Suggestion × Tickets :=
  let (ss, t) := ofDiagnostics filename ds t
  (merge ss, t)

end Suggestion

end AwaitLint
