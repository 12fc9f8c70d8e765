import AwaitLint.Path
import AwaitLint.Text.Newline
import AwaitLint.Text.Quoted
import AwaitLint.Text.Utf8

/-! # Files below the working directory -/

namespace AwaitLint

inductive FileEntry
  | file (bytes : List Nat)
  | directory
  deriving DecidableEq, Repr

/-- Entries by their steps from the working directory, which is itself a directory. -/
structure FileTree where
  entries : List (List String × FileEntry) := []
  deriving Repr, Inhabited

/-- Why a file cannot be read. -/
inductive ReadError
  | notFound
  | notDirectory
  | isDirectory
  | undecodable (fault : Text.DecodeFault)
  deriving Repr

def ReadError.message (path : Path) : ReadError → String
  | notFound => "[Errno 2] No such file or directory: " ++ Text.quoted path.text
  | notDirectory => "[Errno 20] Not a directory: " ++ Text.quoted path.text
  | isDirectory => "[Errno 21] Is a directory: " ++ Text.quoted path.text
  | undecodable fault => fault.message

/-- The text of an entry: UTF-8, with every line end as `\n`. -/
def FileEntry.text : FileEntry → Except ReadError String
  | file bytes =>
    match Text.decode bytes with
    | .ok cs => .ok (String.ofList (Text.universalNewlines cs))
    | .error fault => .error (.undecodable fault)
  | directory => .error .isDirectory

namespace FileTree

def lookup (steps : List String) (t : FileTree) : Option FileEntry :=
  if steps = [] then some .directory else (t.entries.find? (·.1 == steps)).map (·.2)

/-- Sets an entry. -/
def set (steps : List String) (e : FileEntry) (t : FileTree) : FileTree :=
  ⟨(t.entries.filter (·.1 != steps)) ++ [(steps, e)]⟩

/-- Adds an entry and the directories above it. -/
def add (steps : List String) (e : FileEntry) (t : FileTree) : FileTree :=
  let above := (List.range (steps.length - 1)).map fun n => steps.take (n + 1)
  (above.foldl (fun t d => if (t.lookup d).isSome then t else t.set d .directory) t).set steps e

/-- The step back from a place. Above the working directory the steps are kept, and at a root it leads
nowhere. -/
def back (place : List String) : List String :=
  match place.getLast? with
  | none => [".."]
  | some last =>
    if last = ".." then place ++ [".."]
    else if ["/", "//"].contains last then place
    else place.dropLast

/-- Where steps lead from a directory. -/
def follow (t : FileTree) : List String → List String → Except ReadError (List String)
  | place, [] => .ok place
  | place, step :: rest =>
    let next := if step = ".." then back place else place ++ [step]
    match t.lookup next with
    | none => .error .notFound
    | some .directory => follow t next rest
    | some (.file _) => if rest = [] then .ok next else .error .notDirectory

def resolve (t : FileTree) (p : Path) : Except ReadError (List String) := t.follow [] p.steps

/-- The place of a directory. -/
def directory? (t : FileTree) (p : Path) : Option (List String) :=
  match t.resolve p with
  | .ok place => if t.lookup place = some .directory then some place else none
  | .error _ => none

/-- The text of the file that a path leads to. -/
def readText (t : FileTree) (p : Path) : Except ReadError String :=
  match t.resolve p with
  | .error e => .error e
  | .ok place =>
    match t.lookup place with
    | some e => e.text
    | none => .error .notFound

/-- Whether a step leads to an entry of a directory by its name, and neither back nor to a root. -/
def isName (step : String) : Bool :=
  !(["", ".", ".."].contains step) && !step.toList.contains '/'

/-- The entries at any depth below a place, as steps from it. -/
def below (t : FileTree) (place : List String) : List (List String) :=
  ((t.entries.filter fun e => place.isPrefixOf e.1 && place.length < e.1.length).map fun e =>
    e.1.drop place.length).filter fun steps => steps.all isName

end FileTree

end AwaitLint
