import AwaitLint.Record.Decoder
import AwaitLint.Settings
import AwaitLint.Settings.EnvFile
import AwaitLint.Text.Case
import AwaitLint.Text.Newline

/-! # Where settings come from

Values that are given outright win over the environment, and the environment over the file of
variables. Names of variables may be written in any case, and names that no setting has do not count.
-/

namespace AwaitLint.Settings

open Record

def fromFields (fs : Fields) : Checked Settings :=
  Settings.mk <$> fs.optional "redis_url" .string default.storeUrl
    <*> fs.optional "log_level" .string default.logLevel
    <*> fs.optional "max_code_bytes" .integer default.maxCodeBytes
    <*> fs.optional "cache_ttl" .integer default.cacheTtl
    <*> fs.optional "file_timeout" .number default.fileTimeout
    <*> fs.optional "batch_timeout" .number default.batchTimeout
    <*> fs.optional "max_batch_files" .integer default.maxBatchFiles
    <*> fs.optional "parallel_combinators" .string default.parallelCombinators
    <*> fs.optional "handler_patterns" .string default.handlerPatterns
    <*> fs.optional "service_patterns" .string default.servicePatterns

def toJson (s : Settings) : Json :=
  .obj [("redis_url", .str s.storeUrl), ("log_level", .str s.logLevel),
    ("max_code_bytes", .int s.maxCodeBytes), ("cache_ttl", .int s.cacheTtl),
    ("file_timeout", .float s.fileTimeout), ("batch_timeout", .float s.batchTimeout),
    ("max_batch_files", .int s.maxBatchFiles),
    ("parallel_combinators", .str s.parallelCombinators),
    ("handler_patterns", .str s.handlerPatterns), ("service_patterns", .str s.servicePatterns)]

/-- Variables as fields; of two names that differ in case the later one counts, and a variable without
a value is not set. -/
def ofVariables (vars : List EnvFile.Entry) : Fields :=
  (vars.filterMap fun (name, value) => value.map fun v => (Text.lower name, Json.str v)).reverse

/-- What settings are made from. -/
structure Sources where
  given : Fields := []
  environment : List (String × String) := []
  envFile : String := ""

def load (s : Sources) : Checked Settings :=
  let environment := s.environment.map fun (name, value) => (name, some value)
  let file := EnvFile.read environment (Text.universalNewlines s.envFile.toList)
  fromFields (s.given ++ ofVariables environment ++ ofVariables file)

end AwaitLint.Settings
