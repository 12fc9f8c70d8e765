import AwaitLint.Number.Binary64

/-! # JSON values

Whole numbers are kept apart from numbers with a fraction or an exponent, and the fields of an object
keep their order.
-/

namespace AwaitLint

inductive Json where
  | null
  | bool (value : Bool)
  | int (value : Int)
  | float (value : Binary64)
  | str (value : String)
  | arr (items : List Json)
  | obj (fields : List (String × Json))
  deriving Repr, Inhabited

namespace Json

/-- Sets a field: a new one comes last, a known one keeps its place. -/
def setField (fields : List (String × Json)) (key : String) (value : Json) :
    List (String × Json) :=
  if fields.any (·.1 == key) then fields.map fun f => if f.1 == key then (key, value) else f
  else fields ++ [(key, value)]

/-- A field of an object. -/
def field? (key : String) : Json → Option Json
  | obj fields => (fields.find? (·.1 == key)).map (·.2)
  | _ => none

def ofOption {α} (f : α → Json) : Option α → Json
  | some a => f a
  | none => null

def strings (xs : List String) : Json := arr (xs.map str)

end Json

end AwaitLint
