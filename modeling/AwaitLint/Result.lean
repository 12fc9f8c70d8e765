import AwaitLint.Analysis
import AwaitLint.Digest.CodeKey
import AwaitLint.Suggestion

/-! # Results: what is handed out about a text and about a batch of texts -/

namespace AwaitLint

structure FunctionInfo where
  name : String
  line : Int
  endLine : Int
  awaits : Int
  nested : Bool
  deriving DecidableEq, Repr, Inhabited

def FunctionInfo.ofSummary (f : FunctionSummary) : FunctionInfo :=
  ⟨f.name, f.line, f.endLine, f.awaits, f.nested⟩

/-- Where and why a text does not parse. -/
structure ParseFault where
  line : Int
  column : Int
  message : String
  deriving DecidableEq, Repr, Inhabited

def ParseFault.ofError (e : Grammar.ParseError) : ParseFault := ⟨e.line, e.column, e.message⟩

/-- The result for one text. If it has a fault, nothing else was looked at. -/
structure AnalysisResult where
  analysisId : String
  codeHash : String
  fromCache : Bool
  filename : Option String
  suggestions : List Suggestion
  rulesApplied : List Kind
  functions : List FunctionInfo
  fault : Option ParseFault
  requestId : String
  deriving DecidableEq, Repr, Inhabited

/-- A text and who asks about it. -/
structure Inquiry where
  code : String
  filename : Option String
  requestId : String
  deriving DecidableEq, Repr, Inhabited

namespace AnalysisResult

/-- The rules that were run. -/
def kindsOf (e : Eligibility) : List Kind :=
  (if e.waterfall then [.waterfallChain] else []) ++ (if e.runs then [.preferParallelCombinator] else [])

def ofFault (analysisId codeHash : String) (q : Inquiry) (e : Grammar.ParseError) :
    AnalysisResult where
  analysisId := analysisId
  codeHash := codeHash
  fromCache := false
  filename := q.filename
  suggestions := []
  rulesApplied := []
  functions := []
  fault := some (.ofError e)
  requestId := q.requestId

def ofOutcome (analysisId codeHash : String) (q : Inquiry) (o : Outcome)
    (suggestions : List Suggestion) : AnalysisResult where
  analysisId := analysisId
  codeHash := codeHash
  fromCache := false
  filename := q.filename
  suggestions := suggestions
  rulesApplied := kindsOf o.eligibility
  functions := o.functions.map .ofSummary
  fault := none
  requestId := q.requestId

/-- Analyzes a text afresh. -/
def compute (settings : Settings) (analysisId : String) (q : Inquiry) (t : Tickets) :
    AnalysisResult × Tickets :=
  let hash := CodeKey.of settings q.code q.filename
  match Analysis.run settings { code := q.code, filename := q.filename } with
  | .error e => (ofFault analysisId hash q e, t)
  | .ok o =>
    let (suggestions, t) := Suggestion.report q.filename o.diagnostics t
    (ofOutcome analysisId hash q o suggestions, t)

end AnalysisResult

/-- The entry of a batch for one file: a result or an error. -/
structure FileResult where
  filename : Option String
  result : Option AnalysisResult
  error : Option String
  tookMs : Int
  deriving DecidableEq, Repr, Inhabited

structure BatchResult where
  batchId : String
  files : List FileResult
  totalSuggestions : Int
  requestId : String
  deriving DecidableEq, Repr, Inhabited

end AwaitLint
