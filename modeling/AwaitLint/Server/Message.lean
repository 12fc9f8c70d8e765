import AwaitLint.Record.Decoder
import AwaitLint.Result.Codec

/-! # What clients send, and the smaller answers -/

namespace AwaitLint

open Record

/-- A question about one text. -/
structure AnalyzeRequest where
  language : String
  code : String
  filename : Option String
  deriving DecidableEq, Repr

namespace AnalyzeRequest

def toJson (r : AnalyzeRequest) : Json :=
  .obj [("language", .str r.language), ("code", .str r.code), ("filename", .ofOption .str r.filename)]

def decoder (e : Expects) : Decoder AnalyzeRequest := record e "AnalyzeRequest" fun fs =>
  AnalyzeRequest.mk <$> fs.optional "language" .string "python" <*> fs.required "code" .string
    <*> fs.optional "filename" (.nullable .string) none

end AnalyzeRequest

structure SourceFile where
  filename : Option String
  code : String
  deriving DecidableEq, Repr

namespace SourceFile

def toJson (f : SourceFile) : Json :=
  .obj [("filename", .ofOption .str f.filename), ("code", .str f.code)]

def decoder (e : Expects) : Decoder SourceFile := record e "SourceFile" fun fs =>
  SourceFile.mk <$> fs.optional "filename" (.nullable .string) none <*> fs.required "code" .string

end SourceFile

/-- A question about many texts. -/
structure BatchRequest where
  language : String
  files : List SourceFile
  deriving DecidableEq, Repr

namespace BatchRequest

def toJson (r : BatchRequest) : Json :=
  .obj [("language", .str r.language), ("files", .arr (r.files.map SourceFile.toJson))]

def decoder (e : Expects) : Decoder BatchRequest := record e "BatchAnalyzeRequest" fun fs =>
  BatchRequest.mk <$> fs.optional "language" .string "python"
    <*> fs.required "files" (.list (SourceFile.decoder e))

end BatchRequest

/-- A rule as clients see it. -/
structure RuleInfo where
  id : Kind
  severity : Int
  confidence : Binary64
  description : String
  deriving DecidableEq, Repr

namespace RuleInfo

def ofRule (r : Rule) : RuleInfo := ⟨r.kind, r.severity, r.confidence, r.description⟩

def toJson (r : RuleInfo) : Json :=
  .obj [("id", .str r.id.text), ("severity", .int r.severity), ("confidence", .float r.confidence),
    ("description", .str r.description)]

def decoder (e : Expects) : Decoder RuleInfo := record e "RuleInfo" fun fs =>
  RuleInfo.mk <$> fs.required "id" (.oneOf Kind.byText) <*> fs.required "severity" .integer
    <*> fs.required "confidence" .number <*> fs.required "description" .string

end RuleInfo

inductive HealthStatus | ok | degraded | down
  deriving DecidableEq, Repr

namespace HealthStatus

def text : HealthStatus → String
  | ok => "ok"
  | degraded => "degraded"
  | down => "down"

def byText : List (String × HealthStatus) := [ok, degraded, down].map fun s => (s.text, s)

end HealthStatus

structure Health where
  status : HealthStatus
  requestId : String
  revision : Option String
  store : Option String
  deriving DecidableEq, Repr

namespace Health

def toJson (h : Health) : Json :=
  .obj [("status", .str h.status.text), ("request_id", .str h.requestId),
    ("git_sha", .ofOption .str h.revision), ("redis", .ofOption .str h.store)]

def decoder (e : Expects) : Decoder Health := record e "HealthResponse" fun fs =>
  Health.mk <$> fs.required "status" (.oneOf HealthStatus.byText) <*> fs.required "request_id" .string
    <*> fs.optional "git_sha" (.nullable .string) none
    <*> fs.optional "redis" (.nullable .string) none

end Health

/-- The record types by name, each as the way from a value that is handed in to the value that is kept. -/
def checkRecord? (name : String) (e : Expects) (j : Json) : Option (Checked Json) :=
  match name with
  | "Suggestion" => some ((Suggestion.decoder e j).map Suggestion.toJson)
  | "AsyncFunctionInfo" => some ((FunctionInfo.decoder e j).map FunctionInfo.toJson)
  | "ParseErrorInfo" => some ((ParseFault.decoder e j).map ParseFault.toJson)
  | "AnalysisResult" => some ((AnalysisResult.decoder e j).map AnalysisResult.toJson)
  | "FileResult" => some ((FileResult.decoder e j).map FileResult.toJson)
  | "BatchResult" => some ((BatchResult.decoder e j).map BatchResult.toJson)
  | "RuleInfo" => some ((RuleInfo.decoder e j).map RuleInfo.toJson)
  | "HealthResponse" => some ((Health.decoder e j).map Health.toJson)
  | "AnalyzeRequest" => some ((AnalyzeRequest.decoder e j).map AnalyzeRequest.toJson)
  | "SourceFile" => some ((SourceFile.decoder e j).map SourceFile.toJson)
  | "BatchAnalyzeRequest" => some ((BatchRequest.decoder e j).map BatchRequest.toJson)
  | _ => none

end AwaitLint
