/-! # What is wrong with a value that was handed in -/

namespace AwaitLint.Record

/-- One way in which a value is not what was asked for. -/
inductive Problem
  | missing
  | notString
  | notInteger
  | integerText
  | integerFraction
  | notFinite
  | notNumber
  | numberText
  | notBoolean
  | booleanText
  | notList
  | belowLeast (least : Int)
  | aboveMost (most : Int)
  | notOneOf (options : List String)
  | notRecord (name : String)
  | notFields
  | badJson
  deriving DecidableEq, Repr

namespace Problem

/-- The short name of a problem. -/
def code : Problem → String
  | missing => "missing"
  | notString => "string_type"
  | notInteger => "int_type"
  | integerText => "int_parsing"
  | integerFraction => "int_from_float"
  | notFinite => "finite_number"
  | notNumber => "float_type"
  | numberText => "float_parsing"
  | notBoolean => "bool_type"
  | booleanText => "bool_parsing"
  | notList => "list_type"
  | belowLeast _ => "greater_than_equal"
  | aboveMost _ => "less_than_equal"
  | notOneOf _ => "literal_error"
  | notRecord _ => "model_type"
  | notFields => "model_attributes_type"
  | badJson => "json_invalid"

/-- Words in quotes, with commas between them and "or" before the last. -/
def choices : List String → String
  | [] => ""
  | [x] => "'" ++ x ++ "'"
  | [x, y] => "'" ++ x ++ "' or '" ++ y ++ "'"
  | x :: xs => "'" ++ x ++ "', " ++ choices xs

def message : Problem → String
  | missing => "Field required"
  | notString => "Input should be a valid string"
  | notInteger => "Input should be a valid integer"
  | integerText => "Input should be a valid integer, unable to parse string as an integer"
  | integerFraction => "Input should be a valid integer, got a number with a fractional part"
  | notFinite => "Input should be a finite number"
  | notNumber => "Input should be a valid number"
  | numberText => "Input should be a valid number, unable to parse string as a number"
  | notBoolean => "Input should be a valid boolean"
  | booleanText => "Input should be a valid boolean, unable to interpret input"
  | notList => "Input should be a valid list"
  | belowLeast n => "Input should be greater than or equal to " ++ toString n
  | aboveMost n => "Input should be less than or equal to " ++ toString n
  | notOneOf options => "Input should be " ++ choices options
  | notRecord name => "Input should be a valid dictionary or instance of " ++ name
  | notFields => "Input should be a valid dictionary or object to extract fields from"
  | badJson => "JSON decode error"

end Problem

/-- A step on the way to a part of a value. -/
inductive Step
  | field (name : String)
  | index (n : Nat)
  deriving DecidableEq, Repr

/-- A problem and the way to where it is. -/
structure Issue where
  path : List Step
  problem : Problem
  deriving DecidableEq, Repr

def Issue.under (step : Step) (i : Issue) : Issue := { i with path := step :: i.path }

end AwaitLint.Record
