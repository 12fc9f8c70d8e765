import AwaitLint.Text.Quoted

/-! # The arguments of the command line

Options may be shortened as long as they stay unique, and a value may follow an equals sign. All paths
stand together. After `--` everything is a path.
-/

namespace AwaitLint.Lint

/-- What the command line asks for. -/
structure Arguments where
  paths : List String := []
  force : Bool := false
  json : Bool := false
  logLevel : String := "WARNING"
  deriving DecidableEq, Repr, Inhabited

inductive Flag | help | all | json | logLevel
  deriving DecidableEq, Repr

namespace Flag

/-- The spellings of all options, in order. -/
def spellings : List (String × Flag) :=
  [("-h", help), ("--help", help), ("--all", all), ("--json", json), ("--log-level", logLevel)]

/-- An option as messages name it. -/
def title : Flag → String
  | help => "-h/--help"
  | all => "--all"
  | json => "--json"
  | logLevel => "--log-level"

def ofSpelling? (text : String) : Option Flag := (spellings.find? (·.1 == text)).map (·.2)

end Flag

/-- Why the command line is refused. -/
inductive UsageError
  | ambiguous (text : String) (candidates : List String)
  | ignoredValue (flag : Flag) (value : String)
  | missingValue (flag : Flag)
  | missingPaths
  | unrecognized (texts : List String)
  deriving DecidableEq, Repr

def UsageError.message : UsageError → String
  | ambiguous text candidates =>
      "ambiguous option: " ++ text ++ " could match " ++ String.intercalate ", " candidates
  | ignoredValue flag value =>
      "argument " ++ flag.title ++ ": ignored explicit argument " ++ Text.quoted value
  | missingValue flag => "argument " ++ flag.title ++ ": expected one argument"
  | missingPaths => "the following arguments are required: paths"
  | unrecognized texts => "unrecognized arguments: " ++ String.intercalate " " texts

/-- What an argument is, before its place is known. -/
inductive Piece
  | word (text : String)
  | divider
  | option (text : String) (flag : Option Flag) (value : Option String)
  deriving DecidableEq, Repr

namespace Piece

def isOption : Piece → Bool
  | option .. => true
  | _ => false

def text : Piece → String
  | word t => t
  | divider => "--"
  | option t _ _ => t

/-- Splits at the first equals sign. -/
def splitValue (cs : List Char) : String × Option String :=
  let name := cs.takeWhile (· ≠ '=')
  match cs.drop name.length with
  | _ :: value => (String.ofList name, some (String.ofList value))
  | [] => (String.ofList name, none)

/-- A number with a minus sign. -/
def isNegative : List Char → Bool
  | '-' :: cs =>
    let digits (ds : List Char) : Bool := !ds.isEmpty && ds.all fun c => '0' ≤ c && c ≤ '9'
    let whole := cs.takeWhile fun c => '0' ≤ c && c ≤ '9'
    digits cs || match cs.drop whole.length with
      | '.' :: fraction => digits fraction
      | _ => false
  | _ => false

/-- The options that an argument may shorten, with the value that is left. -/
def candidates (cs : List Char) : List (String × Flag × Option String) :=
  match cs with
  | '-' :: '-' :: _ =>
    let (name, value) := splitValue cs
    (Flag.spellings.filter fun s => name.toList.isPrefixOf s.1.toList).map fun s => (s.1, s.2, value)
  | '-' :: c :: rest =>
    (Flag.spellings.filter fun s => s.1.toList == ['-', c]).map fun s =>
      (s.1, s.2, some (String.ofList rest))
  | _ => []

/-- An argument that starts with a dash and is no exact option. -/
def ofDashed (text : String) (cs : List Char) : Except UsageError Piece :=
  let (name, value) := splitValue cs
  match value, Flag.ofSpelling? name with
  | some v, some flag => .ok (.option text (some flag) (some v))
  | _, _ =>
    match candidates cs with
    | [(_, flag, value)] => .ok (.option text (some flag) value)
    | [] =>
      if isNegative cs || cs.contains ' ' then .ok (.word text) else .ok (.option text none none)
    | several => .error (.ambiguous text (several.map (·.1)))

def of (text : String) : Except UsageError Piece :=
  match text.toList with
  | '-' :: c :: cs =>
    match Flag.ofSpelling? text with
    | some flag => .ok (.option text (some flag) none)
    | none => ofDashed text ('-' :: c :: cs)
  | _ => .ok (.word text)

/-- All arguments; after the first divider each is a word. -/
def all : List String → Except UsageError (List Piece)
  | [] => .ok []
  | text :: rest =>
    if text = "--" then .ok (.divider :: rest.map .word)
    else do
      let piece ← of text
      return piece :: (← all rest)

end Piece

/-- How reading the arguments ends early. -/
inductive Halt
  | help
  | refused (e : UsageError)
  deriving DecidableEq, Repr

/-- What has been read: the arguments, whether paths were among them, and what fits nowhere. -/
structure Reading where
  arguments : Arguments := {}
  seenPaths : Bool := false
  extras : List String := []

namespace Reading

/-- Takes the first divider out of a run of paths. -/
def pathsOf : List Piece → List String
  | [] => []
  | .divider :: rest => rest.map Piece.text
  | piece :: rest => piece.text :: pathsOf rest

/-- Words up to the next option: the paths, or extras if there were paths before. -/
def takeWords (run : List Piece) (r : Reading) : Reading :=
  if r.seenPaths || !(run.any fun p => p != .divider) then
    { r with extras := r.extras ++ run.map Piece.text }
  else
    { r with seenPaths := true, arguments := { r.arguments with paths := pathsOf run } }

/-- A help option with letters after it: more of the same, or a mistake. -/
def helpWith : List Char → Halt
  | [] => .help
  | 'h' :: cs => helpWith cs
  | cs => .refused (.ignoredValue .help (String.ofList cs))

/-- An option without the arguments after it. -/
def takeFlag (flag : Flag) (value : Option String) (r : Reading) : Except Halt Reading :=
  match flag, value with
  | .help, none => .error .help
  | .help, some v =>
    if v = "" then .error (.refused (.ignoredValue .help v)) else .error (helpWith v.toList)
  | .all, none => .ok { r with arguments := { r.arguments with force := true } }
  | .json, none => .ok { r with arguments := { r.arguments with json := true } }
  | .all, some v | .json, some v => .error (.refused (.ignoredValue flag v))
  | .logLevel, some v => .ok { r with arguments := { r.arguments with logLevel := v } }
  | .logLevel, none => .error (.refused (.missingValue .logLevel))

/-- Reads the pieces; `fuel` bounds the steps. -/
def run : Nat → List Piece → Reading → Except Halt Reading
  | 0, _, r => .ok r
  | _, [], r => .ok r
  | fuel + 1, piece :: rest, r =>
    match piece with
    | .option text none _ => run fuel rest { r with extras := r.extras ++ [text] }
    | .option _ (some .logLevel) none =>
      match rest with
      | .word value :: rest => do run fuel rest (← r.takeFlag .logLevel (some value))
      | _ => .error (.refused (.missingValue .logLevel))
    | .option _ (some flag) value => do run fuel rest (← r.takeFlag flag value)
    | _ =>
      let words := (piece :: rest).takeWhile fun p => !p.isOption
      run fuel ((piece :: rest).drop words.length) (r.takeWords words)

end Reading

/-- Reads the arguments, or says why not. -/
def Arguments.read (argv : List String) : Except Halt Arguments :=
  match Piece.all argv with
  | .error e => .error (.refused e)
  | .ok pieces =>
    match Reading.run pieces.length pieces {} with
    | .error h => .error h
    | .ok r =>
      if !r.seenPaths then .error (.refused .missingPaths)
      else if r.extras ≠ [] then .error (.refused (.unrecognized r.extras))
      else .ok r.arguments

/-- The name of the program. -/
def programName : String := "waterfall-enforcer"

def usage : List String :=
  ["usage: waterfall-enforcer [-h] [--all] [--json] [--log-level LOG_LEVEL]",
    "                          paths [paths ...]"]

def help : List String :=
  usage ++
  ["", "Flag sequential awaits that could run under asyncio.gather().", "", "positional arguments:",
    "  paths                 files or directories to check", "", "options:",
    "  -h, --help            show this help message and exit",
    "  --all                 run every rule on every file, ignore path patterns and",
    "                        directives", "  --json                print findings as JSON",
    "  --log-level LOG_LEVEL"]

end AwaitLint.Lint
