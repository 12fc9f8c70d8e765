import AwaitLint.Record.Decoder
import AwaitLint.Result

/-! # Results as JSON, and back -/

namespace AwaitLint

open Record

/-- The rules by their texts. -/
def Kind.byText : List (String × Kind) := Kind.all.map fun k => (k.text, k)

namespace Suggestion

def toJson (s : Suggestion) : Json :=
  .obj [("id", .str s.id), ("rule", .str s.rule.text), ("message", .str s.message),
    ("severity", .int s.severity), ("confidence", .float s.confidence), ("score", .float s.score),
    ("filename", .ofOption .str s.filename), ("line", .int s.line), ("column", .int s.column),
    ("end_line", .int s.endLine), ("end_column", .int s.endColumn)]

def severity? : Decoder Int := fun j =>
  ((Decoder.integer j).ensure (fun n => decide (n ≤ 5)) (.aboveMost 5)).ensure
    (fun n => decide (1 ≤ n)) (.belowLeast 1)

/-- A confidence is at most one and not negative; a NaN is not at most one. -/
def confidence? : Decoder Binary64 := fun j =>
  ((Decoder.number j).ensure (fun x => x.le (.ofNat 1)) (.aboveMost 1)).ensure
    (fun x => Binary64.zero.le x) (.belowLeast 0)

def decoder (e : Expects) : Decoder Suggestion := record e "Suggestion" fun fs =>
  Suggestion.mk <$> fs.required "id" .string <*> fs.required "rule" (.oneOf Kind.byText)
    <*> fs.required "message" .string <*> fs.optional "severity" severity? 2
    <*> fs.required "confidence" confidence? <*> fs.optional "score" .number .zero
    <*> fs.optional "filename" (.nullable .string) none <*> fs.required "line" .integer
    <*> fs.required "column" .integer <*> fs.required "end_line" .integer
    <*> fs.required "end_column" .integer

end Suggestion

namespace FunctionInfo

def toJson (f : FunctionInfo) : Json :=
  .obj [("name", .str f.name), ("line", .int f.line), ("end_line", .int f.endLine),
    ("await_count", .int f.awaits), ("is_nested", .bool f.nested)]

def decoder (e : Expects) : Decoder FunctionInfo := record e "AsyncFunctionInfo" fun fs =>
  FunctionInfo.mk <$> fs.required "name" .string <*> fs.required "line" .integer
    <*> fs.required "end_line" .integer <*> fs.required "await_count" .integer
    <*> fs.required "is_nested" .boolean

end FunctionInfo

namespace ParseFault

def toJson (f : ParseFault) : Json :=
  .obj [("line", .int f.line), ("column", .int f.column), ("message", .str f.message)]

def decoder (e : Expects) : Decoder ParseFault := record e "ParseErrorInfo" fun fs =>
  ParseFault.mk <$> fs.required "line" .integer <*> fs.required "column" .integer
    <*> fs.required "message" .string

end ParseFault

namespace AnalysisResult

def toJson (r : AnalysisResult) : Json :=
  .obj [("analysis_id", .str r.analysisId), ("code_hash", .str r.codeHash),
    ("from_cache", .bool r.fromCache), ("filename", .ofOption .str r.filename),
    ("suggestions", .arr (r.suggestions.map Suggestion.toJson)),
    ("rules_applied", .arr (r.rulesApplied.map fun k => .str k.text)),
    ("async_functions", .arr (r.functions.map FunctionInfo.toJson)),
    ("parse_error", .ofOption ParseFault.toJson r.fault), ("request_id", .str r.requestId)]

def decoder (e : Expects) : Decoder AnalysisResult := record e "AnalysisResult" fun fs =>
  AnalysisResult.mk <$> fs.required "analysis_id" .string <*> fs.required "code_hash" .string
    <*> fs.required "from_cache" .boolean <*> fs.optional "filename" (.nullable .string) none
    <*> fs.required "suggestions" (.list (Suggestion.decoder e))
    <*> fs.optional "rules_applied" (.list (.oneOf Kind.byText)) []
    <*> fs.optional "async_functions" (.list (FunctionInfo.decoder e)) []
    <*> fs.optional "parse_error" (.nullable (ParseFault.decoder e)) none
    <*> fs.required "request_id" .string

end AnalysisResult

namespace FileResult

def toJson (f : FileResult) : Json :=
  .obj [("filename", .ofOption .str f.filename),
    ("result", .ofOption AnalysisResult.toJson f.result), ("error", .ofOption .str f.error),
    ("took_ms", .int f.tookMs)]

def decoder (e : Expects) : Decoder FileResult := record e "FileResult" fun fs =>
  FileResult.mk <$> fs.optional "filename" (.nullable .string) none
    <*> fs.optional "result" (.nullable (AnalysisResult.decoder e)) none
    <*> fs.optional "error" (.nullable .string) none <*> fs.required "took_ms" .integer

end FileResult

namespace BatchResult

def toJson (b : BatchResult) : Json :=
  .obj [("batch_id", .str b.batchId), ("files", .arr (b.files.map FileResult.toJson)),
    ("total_suggestions", .int b.totalSuggestions), ("request_id", .str b.requestId)]

def decoder (e : Expects) : Decoder BatchResult := record e "BatchResult" fun fs =>
  BatchResult.mk <$> fs.required "batch_id" .string
    <*> fs.required "files" (.list (FileResult.decoder e))
    <*> fs.required "total_suggestions" .integer <*> fs.required "request_id" .string

end BatchResult

end AwaitLint
