import AwaitLint.Proofs.BatchEntries
import AwaitLint.Proofs.CallCounts

/-! # What is counted for the files of a batch

Most failures are counted where they are met. When the entries are collected, those are counted that come
to light only then, or all files if time is up. So a file is counted for every error in an entry, and a
file is counted twice exactly if it was counted where it failed and is counted once more in the end.
-/

namespace AwaitLint

/-- The number of files without a result, whatever the reason. -/
def Counters.fileErrors (c : Counters) : Nat := c.timeouts + c.crashes

namespace Counters

@[simp] theorem fileErrors_timeout (c : Counters) : c.timeout.fileErrors = c.fileErrors + 1 := by
  simp only [fileErrors, timeout]
  omega

@[simp] theorem fileErrors_crash (c : Counters) : c.crash.fileErrors = c.fileErrors + 1 := rfl

theorem fileErrors_findings (ks : List Kind) (c : Counters) :
    (c.findings ks).fileErrors = c.fileErrors := by
  induction ks generalizing c with
  | nil => rfl
  | cons k ks ih =>
    have first : (c.finding k).fileErrors = c.fileErrors := by cases k <;> rfl
    rw [findings_cons, ih, first]

end Counters

theorem Service.fileErrors_count (r : AnalysisResult) (c : Counters) :
    (count r c).fileErrors = c.fileErrors := by
  unfold count
  split
  · rfl
  · exact Counters.fileErrors_findings _ _

/-- The steps of a call count no file. -/
theorem Call.fileErrors_next (settings : Settings) (q : Inquiry) (begun : Option Call) (s : Service) :
    (next settings q begun s).2.counters.fileErrors = s.counters.fileErrors := by
  cases begun with
  | none => rfl
  | some c =>
    obtain ⟨q', id, hash, stage⟩ := c
    cases stage with
    | asked =>
      rcases Service.find_cases hash s with ⟨r, hf⟩ | hf
      · simp only [next, advance, hf]
        rfl
      · simp only [next, advance, hf]
        rfl
    | missed => exact Service.fileErrors_count _ _
    | analyzed r => simp only [next, advance, Service.counters_keep]
    | answered r wasKept => rfl

namespace Batch

namespace Failure

/-- How often the failure is counted where it is met. -/
def timesMet : Failure → Nat
  | timedOut _ | unmeasured _ | crashed _ => 1
  | cancelled _ => 0

/-- How often the failure is counted when the entries are collected in time. -/
def timesFound : Failure → Nat
  | timedOut _ | crashed _ => 0
  | unmeasured _ | cancelled _ => 1

theorem fileErrors_countMet (f : Failure) (c : Counters) :
    (f.countMet c).fileErrors = c.fileErrors + f.timesMet := by
  cases f <;> simp [countMet, timesMet]

theorem fileErrors_countFound (f : Failure) (c : Counters) :
    (f.countFound c).fileErrors = c.fileErrors + f.timesFound := by
  cases f with
  | timedOut ms => rfl
  | crashed message => rfl
  | _ message =>
    simp only [countFound, timesFound]
    split <;> simp

end Failure

namespace Job

/-- How often the file is counted before the entries are collected. -/
def timesMet (j : Job) : Nat :=
  match j.failure with
  | some f => f.timesMet
  | none => 0

/-- How often the file is counted when the entries are collected; the flag tells whether that is in
time. -/
def timesFound (inTime : Bool) (j : Job) : Nat :=
  match inTime, j.failure with
  | true, some f => f.timesFound
  | true, none => 0
  | false, _ => 1

def collected (inTime : Bool) (j : Job) : FileResult := if inTime then j.entry else j.overdueEntry

/-- The file is counted where its failure is met, and once more when the entries are collected. -/
def countedTwice (inTime : Bool) (j : Job) : Bool :=
  match j.failure with
  | some (.unmeasured _) => true
  | some (.timedOut _) | some (.crashed _) => !inTime
  | some (.cancelled _) | none => false

/-- A file is counted if its entry has an error, and some files once more. -/
theorem timesMet_add_timesFound (inTime : Bool) (j : Job) : j.timesMet + j.timesFound inTime =
    (if (j.collected inTime).error.isSome then 1 else 0) + if j.countedTwice inTime then 1 else 0 := by
  cases inTime <;> cases hf : j.failure with
  | none => simp [timesMet, timesFound, collected, entry, overdueEntry, countedTwice, hf]
  | some f =>
    cases f <;> simp [timesMet, timesFound, collected, entry, overdueEntry, countedTwice, hf,
      Failure.timesMet, Failure.timesFound]

theorem fileErrors_act (settings : Settings) (a : Action) (j : Job) (s : Service) :
    (j.act settings a s).2.counters.fileErrors + j.timesMet =
      s.counters.fileErrors + (j.act settings a s).1.timesMet := by
  by_cases ho : j.isOver = true
  · rw [act_of_isOver ho]
  · have unfailed : j.failure = none := by
      cases hf : j.failure with
      | none => rfl
      | some f => simp [isOver, hf] at ho
    cases ha : a.failure? settings with
    | some f => simp [act, ho, ha, timesMet, unfailed, Failure.fileErrors_countMet]
    | none => simp [act, ho, ha, timesMet, unfailed, Call.fileErrors_next]

end Job

namespace Course

/-- How often files have been counted so far. -/
def timesMet (c : Course) : Nat := (c.jobs.map Job.timesMet).sum

theorem fileErrors_step (settings : Settings) (e : Event) (c : Course) :
    (c.step settings e).service.counters.fileErrors + c.timesMet =
      c.service.counters.fileErrors + (c.step settings e).timesMet := by
  cases e with
  | store s => rfl
  | file i a =>
    simp only [step]
    split
    · next j hj =>
      have file := j.fileErrors_act settings a c.service
      have others := sum_map_set Job.timesMet hj (j.act settings a c.service).1
      simp only [timesMet]
      omega
    · rfl

theorem fileErrors_run (settings : Settings) (events : List Event) (c : Course) :
    (c.run settings events).service.counters.fileErrors + c.timesMet =
      c.service.counters.fileErrors + (c.run settings events).timesMet := by
  induction events generalizing c with
  | nil => rfl
  | cons e events ih =>
    have first := c.fileErrors_step settings e
    have rest := ih (c.step settings e)
    rw [run_cons]
    omega

theorem files_entries (c : Course) : c.entries.1 = c.jobs.map (Job.collected c.isOver) := by
  unfold entries
  cases c.isOver <;> rfl

theorem fileErrors_failures (js : List Job) (k : Counters) :
    ((js.filterMap Job.failure).foldl (fun k f => f.countFound k) k).fileErrors =
      k.fileErrors + (js.map (Job.timesFound true)).sum := by
  induction js generalizing k with
  | nil => rfl
  | cons j js ih =>
    rw [List.map_cons, List.sum_cons]
    cases hf : j.failure with
    | none =>
      have none_found : j.timesFound true = 0 := by simp [Job.timesFound, hf]
      rw [List.filterMap_cons_none hf, ih, none_found, Nat.zero_add]
    | some f =>
      have found : j.timesFound true = f.timesFound := by simp [Job.timesFound, hf]
      rw [List.filterMap_cons_some hf, List.foldl_cons, ih, f.fileErrors_countFound, found, Nat.add_assoc]

theorem fileErrors_late (js : List Job) (k : Counters) : (js.foldl (fun k _ => k.timeout) k).fileErrors =
    k.fileErrors + (js.map (Job.timesFound false)).sum := by
  induction js generalizing k with
  | nil => rfl
  | cons j js ih =>
    rw [List.foldl_cons, ih, Counters.fileErrors_timeout, List.map_cons, List.sum_cons, Nat.add_assoc]
    rfl

theorem fileErrors_entries (c : Course) : c.entries.2.fileErrors =
    c.service.counters.fileErrors + (c.jobs.map (Job.timesFound c.isOver)).sum := by
  unfold entries
  cases c.isOver with
  | true => exact fileErrors_failures c.jobs c.service.counters
  | false => exact fileErrors_late c.jobs c.service.counters

theorem timesMet_add_timesFound (inTime : Bool) (js : List Job) :
    (js.map Job.timesMet).sum + (js.map (Job.timesFound inTime)).sum =
      (js.map (Job.collected inTime)).countP (·.error.isSome) + js.countP (Job.countedTwice inTime) := by
  induction js with
  | nil => rfl
  | cons j js ih =>
    have first := j.timesMet_add_timesFound inTime
    simp only [List.map_cons, List.sum_cons, List.countP_cons]
    omega

end Course

/-- The files that a batch counts, whatever happens to them and in whichever order: one for each entry
with an error, and once more those that are counted twice. -/
theorem collect_counts_errors (settings : Settings) (files : List (Option String × String))
    (requestId : String) (s : Service) (events : List Event) :
    let c := (Course.start files requestId s).run settings events
    let (b, s') := c.collect requestId
    s'.counters.fileErrors = s.counters.fileErrors + b.files.countP (·.error.isSome) +
      c.jobs.countP (Job.countedTwice c.isOver) := by
  intro c
  have unmet : (Course.start files requestId s).timesMet = 0 := by
    simp [Course.timesMet, Course.start, Function.comp_def, Job.timesMet]
  have met : c.service.counters.fileErrors + (Course.start files requestId s).timesMet =
      s.counters.fileErrors + (c.jobs.map Job.timesMet).sum :=
    Course.fileErrors_run settings events (Course.start files requestId s)
  have found := c.fileErrors_entries
  have both := Course.timesMet_add_timesFound c.isOver c.jobs
  have result : c.entries.2.fileErrors = s.counters.fileErrors +
      c.entries.1.countP (·.error.isSome) + c.jobs.countP (Job.countedTwice c.isOver) := by
    rw [Course.files_entries]
    omega
  exact result

/-- A file runs into its limit, another one hangs until the batch is out of time. -/
def lateFiles : List (Option String × String) :=
  [(some "first.py", "x = 1\n"), (some "second.py", "x = 1\n")]

def lateFault? (filename : Option String) : Option Fault :=
  if filename = some "first.py" then some .timeout else some .hang

def impatient : Settings := { Settings.default with batchTimeout := .ofRatio false 1 5 }

theorem dispatch_counts_file_twice :
    let late := dispatch impatient lateFault? lateFiles "r" { tickets := ⟨0⟩ }
    late.1.files.countP (·.error.isSome) = 2 ∧ late.2.counters.fileErrors = 3 := by
  decide +kernel

end Batch

end AwaitLint
