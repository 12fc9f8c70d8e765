import AwaitLint.Call

/-! # Batches

The files of a batch run side by side, each by the steps of a call of its own. A file that runs into its
limit or fails leaves an error in its place and does not touch the others. A batch whose time is up
before all files have ended has only timeouts.
-/

namespace AwaitLint

/-- What the analysis of a file does instead of its work. -/
inductive Fault
  | timeout
  | hang
  | crash (message : String)
  | cancel
  deriving DecidableEq, Repr

namespace Batch

/-- Why a file has no result. -/
inductive Failure
  /-- The file ran into its limit, which is so many milliseconds. -/
  | timedOut (tookMs : Int)
  /-- The file ran into a limit that is no number of milliseconds. -/
  | unmeasured (message : String)
  | crashed (message : String)
  | cancelled (message : String)
  deriving DecidableEq, Repr

namespace Failure

def text : Failure → String
  | timedOut _ => "timeout"
  | unmeasured message | crashed message | cancelled message => message

/-- Only a file that ran into its own limit has a time of its own. -/
def tookMs : Failure → Int
  | timedOut ms => ms
  | _ => 0

def ofLimit (seconds : Binary64) : Failure :=
  let ms := seconds.mul (.ofNat 1000)
  match ms with
  | .finite .. => timedOut ms.truncate
  | .infinite _ => unmeasured "cannot convert float infinity to integer"
  | .nan => unmeasured "cannot convert float NaN to integer"

/-- Counts a failure where it is met. -/
def countMet (f : Failure) (c : Counters) : Counters :=
  match f with
  | timedOut _ | unmeasured _ => c.timeout
  | crashed _ => c.crash
  | cancelled _ => c

/-- Counts a failure that comes to light only when the entries are collected. -/
def countFound (f : Failure) (c : Counters) : Counters :=
  match f with
  | timedOut _ | crashed _ => c
  | unmeasured message | cancelled message => if message = "timeout" then c.timeout else c.crash

end Failure

/-- What can happen to a file. -/
inductive Action
  | advance
  | timeout
  | crash (message : String)
  | cancel (message : String)
  deriving DecidableEq, Repr

def Action.failure? (settings : Settings) : Action → Option Failure
  | advance => none
  | timeout => some (.ofLimit settings.fileTimeout)
  | crash message => some (.crashed message)
  | cancel message => some (.cancelled message)

/-- A file of a batch. -/
structure Job where
  inquiry : Inquiry
  call : Option Call := none
  failure : Option Failure := none

namespace Job

/-- What the call of the file returned. -/
def returned? (j : Job) : Option AnalysisResult := j.call.bind Call.result?

def isOver (j : Job) : Bool := j.failure.isSome || j.returned?.isSome

/-- Nothing happens to a file that has ended. -/
def act (settings : Settings) (a : Action) (j : Job) (s : Service) : Job × Service :=
  if j.isOver then (j, s)
  else match a.failure? settings with
    | some f => ({ j with failure := some f }, { s with counters := f.countMet s.counters })
    | none => let (c, s) := Call.next settings j.inquiry j.call s; ({ j with call := some c }, s)

def entry (j : Job) : FileResult :=
  match j.failure with
  | some f => ⟨j.inquiry.filename, none, some f.text, f.tookMs⟩
  | none => ⟨j.inquiry.filename, j.returned?, none, 0⟩

/-- The entry of a file in a batch that ran out of time, whatever the file had done. -/
def overdueEntry (j : Job) : FileResult := ⟨j.inquiry.filename, none, some "timeout", 0⟩

end Job

/-- What can happen next. -/
inductive Event
  | file (i : Nat) (a : Action)
  /-- The store is found changed, by others or by time, or it begins or ceases to fail. -/
  | store (s : Store)
  deriving DecidableEq, Repr

/-- A batch under way, with its files in the order in which they were given. -/
structure Course where
  service : Service
  jobs : List Job

/-- The number of suggestions in the entries with a result. -/
def total (files : List FileResult) : Nat :=
  files.foldr (fun f n => (match f.result with
    | some r => r.suggestions.length
    | none => 0) + n) 0

def inquiries (files : List (Option String × String)) (requestId : String) : List Inquiry :=
  files.map fun (filename, code) => ⟨code, filename, requestId⟩

namespace Course

def start (files : List (Option String × String)) (requestId : String) (s : Service) : Course :=
  ⟨s, (inquiries files requestId).map fun q => { inquiry := q }⟩

def step (settings : Settings) (c : Course) : Event → Course
  | .file i a => match c.jobs[i]? with
    | some j => let (j, s) := j.act settings a c.service; ⟨s, c.jobs.set i j⟩
    | none => c
  | .store store => { c with service := { c.service with store := store } }

def run (settings : Settings) (events : List Event) (c : Course) : Course :=
  events.foldl (step settings) c

def isOver (c : Course) : Bool := c.jobs.all Job.isOver

/-- The entries of all files when the wait for them is over, and the counters. -/
def entries (c : Course) : List FileResult × Counters :=
  if c.isOver then
    (c.jobs.map Job.entry,
      (c.jobs.filterMap Job.failure).foldl (fun k f => f.countFound k) c.service.counters)
  else (c.jobs.map Job.overdueEntry, c.jobs.foldl (fun k _ => k.timeout) c.service.counters)

def collect (requestId : String) (c : Course) : BatchResult × Service :=
  let (files, counters) := c.entries
  let (id, tickets) := c.service.tickets.draw "ba" 12
  (⟨id, files, total files, requestId⟩,
    { c.service with counters := counters, tickets := tickets })

end Course

/-- What keeps a file from its work. A limit that leaves no time ends a file before it starts. -/
def obstacle? (settings : Settings) (fault? : Option String → Option Fault)
    (filename : Option String) : Option Fault :=
  if settings.fileTimeout.le .zero then some .timeout else fault? filename

/-- What happens to a file at first: it looks for a kept result, or fails. -/
def firstActions : Option Fault → List Action
  | none => [.advance, .advance]
  | some .timeout => [.timeout]
  | some .hang => []
  | some (.crash message) => [.crash message]
  | some .cancel => [.cancel ""]

/-- What happens to a file in the end. A file that hangs meets its own limit, unless the limit of the
batch comes before. -/
def lastActions (settings : Settings) : Option Fault → List Action
  | none => [.advance, .advance]
  | some .hang => if settings.batchTimeout.le settings.fileTimeout then [] else [.timeout]
  | some _ => []

/-- All files look for kept results before any of them keeps one. -/
def schedule (settings : Settings) (fault? : Option String → Option Fault)
    (files : List (Option String × String)) : List Event :=
  if settings.batchTimeout.le .zero then []
  else
    let each (actions : Option Fault → List Action) : List Event :=
      files.zipIdx.flatMap fun (file, i) =>
        (actions (obstacle? settings fault? file.1)).map (.file i)
    each firstActions ++ each (lastActions settings)

def dispatch (settings : Settings) (fault? : Option String → Option Fault)
    (files : List (Option String × String)) (requestId : String) (s : Service) :
    BatchResult × Service :=
  ((Course.start files requestId s).run settings (schedule settings fault? files)).collect requestId

end Batch

end AwaitLint
