import AwaitLint.Json.Writer
import AwaitLint.Lint.Run
import AwaitLint.Settings.Load

/-! # The program -/

namespace AwaitLint.Program

def readEntry (name : String) : IO (Option FileEntry) := do
  try
    if ← (← IO.FS.realPath name).isDir then return some .directory
    return some (.file ((← IO.FS.readBinFile name).toList.map UInt8.toNat))
  catch _ => return none

/-- Adds what may be checked below a directory. Links to directories are not followed. -/
partial def addBelow (name : String) (place : List String) (t : FileTree) : IO FileTree := do
  let mut t := t
  for e in ← (← IO.FS.realPath name).readDir do
    let next := place ++ [e.fileName]
    let inner := name ++ "/" ++ e.fileName
    let isFolder := (← e.path.symlinkMetadata).type == .dir
    if isFolder || Lint.isChecked [e.fileName] then
      if let some entry ← readEntry inner then
        t := t.set next entry
        if isFolder && !Lint.isSkipped e.fileName then t ← addBelow inner next t
  return t

/-- Adds the places that steps lead through, and what is below the last one. -/
def addSteps (name : String) (place : List String) (t : FileTree) : List String → IO FileTree
  | [] => addBelow name place t
  | step :: rest => do
    let next := if step = ".." then FileTree.back place else place ++ [step]
    let inner := if name = "." then step else name ++ "/" ++ step
    match ← readEntry inner with
    | none => return t
    | some .directory => addSteps inner next (if next = [] then t else t.set next .directory) rest
    | some entry => return t.set next entry

/-- The files that the arguments name. -/
def readTree (arguments : List String) : IO FileTree :=
  match Lint.Arguments.read arguments with
  | .ok a => a.paths.foldlM (fun t p => addSteps "." [] t (Path.ofText p).steps) {}
  | .error _ => return {}

def readText (name : String) : IO String := do
  try IO.FS.readFile name catch _ => return ""

/-- The variables of the process. -/
def environment : IO (List (String × String)) := do
  let text ← readText "/proc/self/environ"
  return (Text.splitChar '\x00' text.toList).filterMap fun entry =>
    if entry.contains '=' then
      let name := entry.takeWhile (· != '=')
      some (String.ofList name, String.ofList (entry.drop (name.length + 1)))
    else none

/-- A supply of identifiers that starts anywhere. -/
def randomTickets : IO Tickets := do
  let bytes ← IO.getRandomBytes 8
  return ⟨bytes.toList.foldl (fun n b => n * 256 + b.toNat) 0⟩

def print (o : Lint.Outcome) : IO UInt32 := do
  match o.output with
  | .lines texts => texts.forM IO.println
  | .document value => IO.println (value.pretty 0)
  o.notices.forM fun
    | .text line => IO.eprintln line
    | .record r => IO.eprintln r.toJson.compact
  match o.ending with
  | .code n | .exit n => return n.toUInt32

end AwaitLint.Program

open AwaitLint Program in
/-- Checks the files that the arguments name. -/
def main (arguments : List String) : IO UInt32 := do
  let sources := { environment := ← environment, envFile := ← readText ".env" }
  match Settings.load sources with
  | .bad issues =>
    for i in issues do IO.eprintln i.problem.message
    return 1
  | .ok settings =>
    match Lint.run settings (← readTree arguments) (← randomTickets) arguments with
    | .ok outcome => print outcome
    | .error e =>
      IO.eprintln e.message
      return 1
