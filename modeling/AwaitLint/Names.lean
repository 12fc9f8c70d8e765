import AwaitLint.Node

/-! # Names that expressions read and targets bind or write

Each collector lists the names it finds, possibly more than once; only membership matters. A node
that a collector does not know contributes nothing.
-/

namespace AwaitLint.Node

mutual

/-- The names that an expression mentions. Lambdas, comprehensions, yields and inline assignments
contribute nothing; the keys and values of a display are paired off, and what has no partner is left
out. -/
def reads : Node → List String
  | name id => [id]
  | attr value _ => value.reads
  | subscript value index => value.reads ++ index.reads
  | call func args keywords =>
      func.reads ++ (readsEach args).flatten ++ readsKeywords keywords
  | dict keys values =>
      (List.zipWith (· ++ ·) (readsEach keys) (readsEach values)).flatten
  | sequence items => (readsEach items).flatten
  | starred value => value.reads
  | operation operands => (readsEach operands).flatten
  | conditional test body other => test.reads ++ body.reads ++ other.reads
  | await _ _ value => value.reads
  | _ => []

def readsEach : List Node → List (List String)
  | [] => []
  | x :: xs => x.reads :: readsEach xs

/-- The names that the values of keyword arguments mention. -/
def readsKeywords : List Node → List String
  | [] => []
  | keyword _ value :: xs => value.reads ++ readsKeywords xs
  | _ :: xs => readsKeywords xs

end

/-- A capture name, unless it is missing or empty. -/
def captured : Option String → List String
  | some n => if n = "" then [] else [n]
  | none => []

mutual

/-- The names that a target or a match pattern introduces. -/
def binds : Node → List String
  | name id => [id]
  | sequence items => bindsAll items
  | starred value => value.binds
  | capture id pattern => captured id ++ pattern.binds
  | captureRest id => captured id
  | patterns parts => bindsAll parts
  | mappingPattern _ parts rest => bindsAll parts ++ captured rest
  | classPattern _ parts _ attrParts => bindsAll parts ++ bindsAll attrParts
  | _ => []

def bindsAll : List Node → List String
  | [] => []
  | x :: xs => x.binds ++ bindsAll xs

end

mutual

/-- The names that an assignment target writes: those it binds, and the objects behind attribute and
subscript targets. -/
def writes : Node → List String
  | sequence items => writesAll items
  | starred value => value.writes
  | attr value _ => value.reads
  | subscript value _ => value.reads
  | target => target.binds

def writesAll : List Node → List String
  | [] => []
  | x :: xs => x.writes ++ writesAll xs

end

end AwaitLint.Node

namespace AwaitLint

/-- The members of a list of names in the order of their code points, each once. -/
def sortedNames (names : List String) : List String :=
  names.eraseDups.mergeSort fun a b => decide (a ≤ b)

end AwaitLint
