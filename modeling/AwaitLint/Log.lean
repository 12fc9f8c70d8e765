import AwaitLint.Json.Basic

/-! # Log records -/

namespace AwaitLint.Log

inductive Level | notset | debug | info | warning | error | critical
  deriving DecidableEq, Repr, Inhabited

namespace Level

def value : Level → Nat
  | notset => 0
  | debug => 10
  | info => 20
  | warning => 30
  | error => 40
  | critical => 50

def text : Level → String
  | notset => "notset"
  | debug => "debug"
  | info => "info"
  | warning => "warning"
  | error => "error"
  | critical => "critical"

/-- The letter in upper case; two letters outside ASCII have ASCII forms there. -/
def upperChar (c : Char) : Char :=
  if c.toNat = 0x131 then 'I' else if c.toNat = 0x17F then 'S' else c.toUpper

/-- The level of a name in upper case. -/
def ofName? : String → Option Level
  | "NOTSET" => some notset
  | "DEBUG" => some debug
  | "INFO" => some info
  | "WARNING" | "WARN" => some warning
  | "ERROR" => some error
  | "CRITICAL" | "FATAL" => some critical
  | _ => none

end Level

/-- A name that stands for a layout and not for a level. -/
def layoutName : String := "BASIC_FORMAT"

/-- Why logging cannot be set up. -/
inductive SetupError | layoutAsLevel
  deriving DecidableEq, Repr

def SetupError.message : SetupError → String
  | layoutAsLevel => "Unknown level: '%(levelname)s:%(name)s:%(message)s'"

/-- The level from which on records are written. A name that is no level means `info`. -/
def threshold (name : String) : Except SetupError Level :=
  let upper := String.ofList (name.toList.map Level.upperChar)
  if upper = layoutName then .error .layoutAsLevel else .ok ((Level.ofName? upper).getD .info)

structure Record where
  event : String
  level : Level
  logger : String
  requestId : Option String := none
  deriving DecidableEq, Repr

def Record.toJson (r : Record) : Json :=
  .obj ([("event", .str r.event), ("level", .str r.level.text), ("logger", .str r.logger)]
    ++ match r.requestId with
      | some id => [("request_id", .str id)]
      | none => [])

/-- A record is written if its level reaches the threshold. -/
def isWritten (threshold : Level) (r : Record) : Bool := decide (threshold.value ≤ r.level.value)

def written (threshold : Level) (rs : List Record) : List Record := rs.filter (isWritten threshold)

/-- The name of a logger; the one at the top has no name of its own. -/
def loggerName (name : String) : String := if name = "" then "root" else name

end AwaitLint.Log
