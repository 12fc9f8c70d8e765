import AwaitLint.Batch
import AwaitLint.Proofs.ConcurrentCalls
import Mathlib.Algebra.Ring.Nat

/-! # What a batch says about its files

The files of a batch share the service and nothing else: what becomes of a file depends only on what
happens to it, and on the services that its own steps find. If all files end in time, the entry of each
tells what its own call returned or what went wrong before; otherwise every entry is a timeout.
-/

namespace AwaitLint.Batch

/-! ## A file by itself -/

/-- A history in which a file only takes steps, on these services. -/
def steps (found : List Service) : List (Action × Service) := found.map fun s => (.advance, s)

/-- The call of a file that has taken its steps on these services. -/
def callAfter (settings : Settings) (q : Inquiry) (found : List Service) (begun : Option Call) :
    Option Call :=
  found.foldl (fun c s => some (Call.next settings q c s).1) begun

/-- The call of the file takes its steps until it returns the result. -/
def Returns (settings : Settings) (q : Inquiry) (past : List (Action × Service))
    (r : AnalysisResult) : Prop :=
  ∃ found rest, past = steps found ++ rest ∧
    (callAfter settings q found none).bind Call.result? = some r

/-- Something goes wrong with the file before its call has returned. -/
def Fails (settings : Settings) (q : Inquiry) (past : List (Action × Service)) (f : Failure) : Prop :=
  ∃ found a s rest, past = steps found ++ (a, s) :: rest ∧ a.failure? settings = some f ∧
    (callAfter settings q found none).bind Call.result? = none

def Ends (settings : Settings) (q : Inquiry) (past : List (Action × Service)) : Prop :=
  (∃ r, Returns settings q past r) ∨ ∃ f, Fails settings q past f

namespace Job

/-- The file after what has happened to it. -/
def after (settings : Settings) (past : List (Action × Service)) (j : Job) : Job :=
  past.foldl (fun j x => (j.act settings x.1 x.2).1) j

variable {settings : Settings} {j : Job}

@[simp] theorem after_nil (settings : Settings) : Job.after settings [] = id := rfl

theorem after_append (settings : Settings) (h h' : List (Action × Service)) (j : Job) :
    j.after settings (h ++ h') = (j.after settings h).after settings h' :=
  List.foldl_append

theorem act_of_isOver (ho : j.isOver = true) (a : Action) (s : Service) :
    j.act settings a s = (j, s) := by
  simp [act, ho]

theorem after_of_isOver (ho : j.isOver = true) (h : List (Action × Service)) : j.after settings h = j := by
  induction h with
  | nil => rfl
  | cons x h ih =>
    have first : j.after settings (x :: h) = (j.act settings x.1 x.2).1.after settings h := rfl
    rw [first, act_of_isOver ho]
    exact ih

/-- A step is the next step of the call; if the call is answered, it changes nothing. -/
theorem act_advance (hf : j.failure = none) (s : Service) : (j.act settings .advance s).1 =
    { j with call := some (Call.next settings j.inquiry j.call s).1 } := by
  by_cases ho : j.isOver = true
  -- the file is over because its call is answered, and an answered call takes no more steps
  · obtain ⟨q, call, failure⟩ := j
    obtain rfl : failure = none := hf
    have hr : (call.bind Call.result?).isSome := by simpa [isOver, returned?] using ho
    rw [act_of_isOver ho]
    cases call with
    | none => simp at hr
    | some c =>
      obtain ⟨q', id, hash, stage⟩ := c
      cases stage with
      | answered r wasKept => rfl
      | _ => simp [Call.result?] at hr
  · simp [act, ho, Action.failure?]

theorem act_failure {a : Action} {f : Failure} (ho : j.isOver = false) (ha : a.failure? settings = some f)
    (s : Service) : (j.act settings a s).1 = { j with failure := some f } := by
  simp [act, ho, ha]

theorem after_steps (hf : j.failure = none) (found : List Service) : j.after settings (steps found) =
    { j with call := callAfter settings j.inquiry found j.call } := by
  induction found generalizing j with
  | nil => rfl
  | cons s found ih =>
    have first : j.after settings (steps (s :: found)) =
        (j.act settings .advance s).1.after settings (steps found) := rfl
    have rest := ih (j := { j with call := some (Call.next settings j.inquiry j.call s).1 }) hf
    rw [first, act_advance hf, rest]
    rfl

end Job

/-- A file to which nothing has happened yet. -/
def job (q : Inquiry) : Job := { inquiry := q }

variable {settings : Settings} {q : Inquiry} {past : List (Action × Service)}

theorem job_after_steps (settings : Settings) (q : Inquiry) (found : List Service) :
    (job q).after settings (steps found) = ⟨q, callAfter settings q found none, none⟩ :=
  Job.after_steps rfl found

theorem after_of_returns {r : AnalysisResult} (h : Returns settings q past r) :
    ((job q).after settings past).failure = none ∧
      ((job q).after settings past).returned? = some r := by
  obtain ⟨found, rest, rfl, hr⟩ := h
  have stepped := job_after_steps settings q found
  have finished : ((job q).after settings (steps found)).isOver = true := by
    simp [stepped, Job.isOver, Job.returned?, hr]
  rw [Job.after_append, Job.after_of_isOver finished, stepped]
  exact ⟨rfl, hr⟩

theorem after_of_fails {f : Failure} (h : Fails settings q past f) :
    ((job q).after settings past).failure = some f ∧
      ((job q).after settings past).returned? = none := by
  obtain ⟨found, a, s, rest, rfl, ha, hr⟩ := h
  have stepped := job_after_steps settings q found
  have running : ((job q).after settings (steps found)).isOver = false := by
    simp [stepped, Job.isOver, Job.returned?, hr]
  have failed := Job.act_failure running ha s
  have finished : (((job q).after settings (steps found)).act settings a s).1.isOver = true := by
    simp [failed, Job.isOver]
  have last : (job q).after settings (steps found ++ (a, s) :: rest) =
      (((job q).after settings (steps found)).act settings a s).1.after settings rest := by
    rw [Job.after_append]
    rfl
  rw [last, Job.after_of_isOver finished, failed, stepped]
  exact ⟨rfl, hr⟩

/-- A history begins with steps; they are all of it, or something goes wrong after them. -/
theorem exists_steps (settings : Settings) (past : List (Action × Service)) :
    ∃ found, past = steps found ∨
      ∃ a s rest f, past = steps found ++ (a, s) :: rest ∧ a.failure? settings = some f := by
  induction past with
  | nil => exact ⟨[], .inl rfl⟩
  | cons x past ih =>
    obtain ⟨a, s⟩ := x
    cases ha : a.failure? settings with
    | some f => exact ⟨[], .inr ⟨a, s, past, f, rfl, ha⟩⟩
    | none =>
      obtain rfl : a = .advance := by
        cases a with
        | advance => rfl
        | _ => cases ha
      obtain ⟨found, rfl | ⟨a, s', rest, f, rfl, ha⟩⟩ := ih
      · exact ⟨s :: found, .inl rfl⟩
      · exact ⟨s :: found, .inr ⟨a, s', rest, f, rfl, ha⟩⟩

/-- A file that has not ended has only taken steps, and its call has not returned. -/
theorem ends_or_running (settings : Settings) (q : Inquiry) (past : List (Action × Service)) :
    Ends settings q past ∨ ∃ found, past = steps found ∧
      (callAfter settings q found none).bind Call.result? = none := by
  obtain ⟨found, hfound⟩ := exists_steps settings past
  cases hr : (callAfter settings q found none).bind Call.result? with
  | some r =>
    refine .inl (.inl ⟨r, ?_⟩)
    rcases hfound with rfl | ⟨a, s, rest, f, rfl, -⟩
    · exact ⟨found, [], by simp, hr⟩
    · exact ⟨found, _, rfl, hr⟩
  | none =>
    rcases hfound with rfl | ⟨a, s, rest, f, rfl, ha⟩
    · exact .inr ⟨found, rfl, hr⟩
    · exact .inl (.inr ⟨f, found, a, s, rest, rfl, ha, hr⟩)

theorem isOver_after_iff : ((job q).after settings past).isOver = true ↔ Ends settings q past := by
  constructor
  · intro ho
    rcases ends_or_running settings q past with h | ⟨found, rfl, hr⟩
    · exact h
    · rw [job_after_steps] at ho
      simp [Job.isOver, Job.returned?, hr] at ho
  · rintro (⟨r, h⟩ | ⟨f, h⟩)
    · simp [Job.isOver, (after_of_returns h).2]
    · simp [Job.isOver, (after_of_fails h).1]

/-- What the entry of a file says when all files have ended. -/
structure Tells (settings : Settings) (q : Inquiry) (past : List (Action × Service))
    (entry : FileResult) : Prop where
  filename : entry.filename = q.filename
  completed : ∀ r, (entry.result = some r ∧ entry.error = none) ↔ Returns settings q past r
  failed : ∀ message, (entry.result = none ∧ entry.error = some message) ↔
    ∃ f, Fails settings q past f ∧ message = f.text

theorem Job.inquiry_act (settings : Settings) (a : Action) (j : Job) (s : Service) :
    (j.act settings a s).1.inquiry = j.inquiry := by
  unfold act
  split
  · rfl
  · split <;> rfl

theorem Job.inquiry_after (settings : Settings) (past : List (Action × Service)) (j : Job) :
    (j.after settings past).inquiry = j.inquiry := by
  induction past generalizing j with
  | nil => rfl
  | cons x past ih => exact (ih _).trans (inquiry_act settings x.1 j x.2)

theorem tells_entry (h : Ends settings q past) :
    Tells settings q past ((job q).after settings past).entry := by
  have filename : ((job q).after settings past).inquiry.filename = q.filename := by
    rw [Job.inquiry_after]
    rfl
  rcases h with ⟨r, hr⟩ | ⟨f, hf⟩
  · obtain ⟨hfailure, hreturned⟩ := after_of_returns hr
    have entry : ((job q).after settings past).entry = ⟨q.filename, some r, none, 0⟩ := by
      simp [Job.entry, hfailure, hreturned, filename]
    rw [entry]
    refine ⟨rfl, fun r' => ⟨?_, fun h => ?_⟩, fun message => ⟨?_, ?_⟩⟩
    · rintro ⟨⟨⟩, -⟩
      exact hr
    · exact ⟨hreturned.symm.trans (after_of_returns h).2, rfl⟩
    · rintro ⟨⟨⟩, -⟩
    · rintro ⟨f, hf, -⟩
      exact absurd ((after_of_fails hf).1.symm.trans hfailure) (by simp)
  · obtain ⟨hfailure, hreturned⟩ := after_of_fails hf
    have entry : ((job q).after settings past).entry =
        ⟨q.filename, none, some f.text, f.tookMs⟩ := by
      simp [Job.entry, hfailure, filename]
    rw [entry]
    refine ⟨rfl, fun r => ⟨?_, fun h => ?_⟩, fun message => ⟨?_, ?_⟩⟩
    · rintro ⟨⟨⟩, -⟩
    · exact absurd ((after_of_returns h).2.symm.trans hreturned) (by simp)
    · rintro ⟨-, ⟨⟩⟩
      exact ⟨f, hf, rfl⟩
    · rintro ⟨f', hf', rfl⟩
      obtain rfl : f' = f := Option.some.inj ((after_of_fails hf').1.symm.trans hfailure)
      exact ⟨rfl, rfl⟩

/-! ## The files of a batch -/

/-- What an event is for a file, on this service. -/
def Event.onFile (i : Nat) (s : Service) : Event → List (Action × Service)
  | file k a => if k = i then [(a, s)] else []
  | store _ => []

namespace Course

/-- What happens to a file of a batch, each time with the service as it is then. -/
def history (settings : Settings) (i : Nat) : List Event → Course → List (Action × Service)
  | [], _ => []
  | e :: events, c => e.onFile i c.service ++ history settings i events (c.step settings e)

theorem run_cons (settings : Settings) (e : Event) (events : List Event) (c : Course) :
    c.run settings (e :: events) = (c.step settings e).run settings events := rfl

theorem jobs_step (settings : Settings) (e : Event) (c : Course) (i : Nat) :
    (c.step settings e).jobs[i]? = c.jobs[i]?.map (Job.after settings (e.onFile i c.service)) := by
  cases e with
  | store s => simp [step, Event.onFile]
  | file k a =>
    simp only [step, Event.onFile]
    by_cases hk : k = i
    · subst hk
      cases hj : c.jobs[k]? with
      | none => simp [hj]
      | some j =>
        obtain ⟨hlt, -⟩ := List.getElem?_eq_some_iff.1 hj
        simp [hlt, Job.after]
    · cases hj : c.jobs[k]? with
      | none => simp [hk]
      | some j => simp [hk, List.getElem?_set_ne hk]

/-- The other files matter to a file only through the services that it finds. -/
theorem jobs_run (settings : Settings) (events : List Event) (c : Course) (i : Nat) :
    (c.run settings events).jobs[i]? =
      c.jobs[i]?.map (Job.after settings (history settings i events c)) := by
  induction events generalizing c with
  | nil => simp [run, history]
  | cons e events ih =>
    rw [run_cons, ih, jobs_step, Option.map_map, history]
    congr 1
    funext j
    exact (Job.after_append settings _ _ j).symm

theorem inquiries_run (settings : Settings) (events : List Event) (c : Course) :
    (c.run settings events).jobs.map Job.inquiry = c.jobs.map Job.inquiry := by
  apply List.ext_getElem?
  intro i
  rw [List.getElem?_map, List.getElem?_map, jobs_run, Option.map_map]
  congr 1
  funext j
  exact Job.inquiry_after settings _ j

theorem filenames_entries (c : Course) :
    c.entries.1.map FileResult.filename = c.jobs.map fun j => j.inquiry.filename := by
  have entry : ∀ j : Job, j.entry.filename = j.inquiry.filename := by
    intro j
    unfold Job.entry
    split <;> rfl
  unfold entries
  split
  · simp [Function.comp_def, entry]
  · simp [Function.comp_def, Job.overdueEntry]

/-- A batch that is not over has only timeouts. -/
theorem timeout_of_mem_entries {c : Course} (running : c.isOver ≠ true) {entry : FileResult}
    (h : entry ∈ c.entries.1) : entry.result = none ∧ entry.error = some "timeout" := by
  rw [entries, if_neg running] at h
  obtain ⟨j, -, rfl⟩ := List.mem_map.1 h
  exact ⟨rfl, rfl⟩

end Course

theorem total_eq_sum (files : List FileResult) : total files =
    ((files.filterMap FileResult.result).map fun r => r.suggestions.length).sum := by
  induction files with
  | nil => rfl
  | cons f files ih =>
    unfold total at ih ⊢
    rw [List.foldr_cons, ih]
    cases h : f.result <;> simp [h]

section Started

variable (settings : Settings) (files : List (Option String × String)) (requestId : String) (s : Service)
  (events : List Event)

/-- Each file of a batch is what its own history makes of it. -/
theorem jobs_started (i : Nat) : ((Course.start files requestId s).run settings events).jobs[i]? =
    (inquiries files requestId)[i]?.map fun q =>
      (job q).after settings (Course.history settings i events (Course.start files requestId s)) := by
  have start : (Course.start files requestId s).jobs = (inquiries files requestId).map job := rfl
  rw [Course.jobs_run, start, List.getElem?_map, Option.map_map]
  rfl

theorem filenames_started :
    ((Course.start files requestId s).run settings events).entries.1.map FileResult.filename =
      (inquiries files requestId).map Inquiry.filename := by
  have start : (Course.start files requestId s).jobs.map Job.inquiry = inquiries files requestId := by
    simp [Course.start, Function.comp_def]
  have kept := Course.inquiries_run settings events (Course.start files requestId s)
  rw [Course.filenames_entries, ← start, ← kept, List.map_map]
  rfl

/-- A batch is over when every file has ended by its own history. -/
theorem isOver_started_iff : ((Course.start files requestId s).run settings events).isOver = true ↔
    ∀ i q, (inquiries files requestId)[i]? = some q →
      Ends settings q (Course.history settings i events (Course.start files requestId s)) := by
  rw [Course.isOver, List.all_eq_true]
  constructor
  · intro finished i q hq
    have hj := jobs_started settings files requestId s events i
    rw [hq, Option.map_some] at hj
    exact isOver_after_iff.1 (finished _ (List.mem_of_getElem? hj))
  · intro ends j hj
    obtain ⟨i, hi⟩ := List.mem_iff_getElem?.1 hj
    rw [jobs_started] at hi
    obtain ⟨q, hq, rfl⟩ := Option.map_eq_some_iff.1 hi
    exact isOver_after_iff.2 (ends i q hq)

end Started

/-- What a batch reports about its files, if this is what happened to each of them. -/
structure Reports (settings : Settings) (qs : List Inquiry) (past : Nat → List (Action × Service))
    (b : BatchResult) : Prop where
  /-- There is one entry for each file, in the order of the files. -/
  filenames : b.files.map FileResult.filename = qs.map Inquiry.filename
  inTime : (∀ i q, qs[i]? = some q → Ends settings q (past i)) →
    ∀ i q, qs[i]? = some q → ∃ entry, b.files[i]? = some entry ∧ Tells settings q (past i) entry
  overdue : (∃ i q, qs[i]? = some q ∧ ¬ Ends settings q (past i)) →
    (∀ entry ∈ b.files, entry.result = none ∧ entry.error = some "timeout") ∧ b.totalSuggestions = 0
  total : b.totalSuggestions =
    ((b.files.filterMap FileResult.result).map fun r => r.suggestions.length).sum

/-- Whatever happens to the files of a batch, and in whichever order, each has its own entry. If all files
have ended, the entry tells what the call of this file returned or why it failed; if time is up before,
all files have timed out. A batch that is dispatched is the case of its schedule. -/
theorem collect_reports (settings : Settings) (files : List (Option String × String))
    (requestId : String) (s : Service) (events : List Event) :
    Reports settings (inquiries files requestId)
      (fun i => Course.history settings i events (Course.start files requestId s))
      (((Course.start files requestId s).run settings events).collect requestId).1 := by
  let c := (Course.start files requestId s).run settings events
  have finished := isOver_started_iff settings files requestId s events
  have total_eq : (c.collect requestId).1.totalSuggestions = total c.entries.1 := rfl
  refine ⟨filenames_started settings files requestId s events, fun ended i q hq => ?_, fun late => ?_, ?_⟩
  · have hj := jobs_started settings files requestId s events i
    rw [hq, Option.map_some] at hj
    have entries : c.entries.1 = c.jobs.map Job.entry := by rw [Course.entries, if_pos (finished.2 ended)]
    have entry : c.entries.1[i]? = some ((job q).after settings (Course.history settings i events
        (Course.start files requestId s))).entry := by
      rw [entries, List.getElem?_map, hj, Option.map_some]
    exact ⟨_, entry, tells_entry (ended i q hq)⟩
  · have running : c.isOver ≠ true := by
      obtain ⟨i, q, hq, hne⟩ := late
      exact fun ho => hne (finished.1 ho i q hq)
    have none_left : c.entries.1.filterMap FileResult.result = [] :=
      List.filterMap_eq_nil_iff.2 fun _ h => (Course.timeout_of_mem_entries running h).1
    refine ⟨fun _ h => Course.timeout_of_mem_entries running h, ?_⟩
    rw [total_eq, total_eq_sum, none_left]
    rfl
  · rw [total_eq, total_eq_sum]
    rfl

/-! ## Files that end -/

theorem rank_callAfter (settings : Settings) (q : Inquiry) (found : List Service) (c : Call) :
    ∃ c', callAfter settings q found (some c) = some c' ∧
      min 3 (c.stage.rank + found.length) ≤ c'.stage.rank := by
  induction found generalizing c with
  | nil => exact ⟨c, rfl, Nat.min_le_right _ _⟩
  | cons s found ih =>
    have first := c.rank_advance settings s
    obtain ⟨c', hc', hle⟩ := ih (c.advance settings s).1
    refine ⟨c', hc', ?_⟩
    rw [List.length_cons]
    omega

/-- A file that has taken four steps has ended: one begins its call, and three answer it. -/
theorem ends_of_length (settings : Settings) (q : Inquiry) {past : List (Action × Service)}
    (h : 4 ≤ past.length) : Ends settings q past := by
  rcases ends_or_running settings q past with ends | ⟨found, rfl, running⟩
  · exact ends
  · rw [steps, List.length_map] at h
    obtain ⟨s, found, rfl⟩ := List.exists_cons_of_length_pos (Nat.lt_of_lt_of_le (by decide) h)
    obtain ⟨c, hc, hrank⟩ := rank_callAfter settings q found (Call.next settings q none s).1
    have answered : callAfter settings q (s :: found) none = some c := hc
    have three : 3 ≤ c.stage.rank := by
      rw [List.length_cons] at h
      omega
    rw [answered, Option.bind_some, Call.result?] at running
    cases hs : c.stage with
    | answered r wasKept => simp [hs] at running
    | _ => simp [hs, Stage.rank] at three

theorem ends_of_mem (settings : Settings) (q : Inquiry) {past : List (Action × Service)} {a : Action}
    (ha : a ∈ past.map Prod.fst) (hne : a ≠ .advance) : Ends settings q past := by
  rcases ends_or_running settings q past with ends | ⟨found, rfl, -⟩
  · exact ends
  · simp only [steps, List.map_map, List.mem_map, Function.comp] at ha
    obtain ⟨-, -, rfl⟩ := ha
    exact absurd rfl hne

/-- What happens to a file, without the services. -/
def actions (i : Nat) (events : List Event) : List Action :=
  events.filterMap fun
    | .file k a => if k = i then some a else none
    | .store _ => none

theorem map_fst_history (settings : Settings) (i : Nat) (events : List Event) (c : Course) :
    (Course.history settings i events c).map Prod.fst = actions i events := by
  induction events generalizing c with
  | nil => rfl
  | cons e events ih =>
    rw [Course.history, List.map_append, ih, actions, actions, List.filterMap_cons]
    cases e with
    | store s => rfl
    | file k a => by_cases hk : k = i <;> simp [Event.onFile, hk]

theorem ends_history (settings : Settings) (q : Inquiry) (c : Course) {i : Nat} {events : List Event}
    (h : 4 ≤ (actions i events).length ∨ ∃ a ∈ actions i events, a ≠ .advance) :
    Ends settings q (Course.history settings i events c) := by
  rw [← map_fst_history settings i events c] at h
  rcases h with h | ⟨a, ha, hne⟩
  · exact ends_of_length settings q (by simpa using h)
  · exact ends_of_mem settings q ha hne

/-- One file hangs, one fails, and one is analyzed. -/
def mixedFiles : List (Option String × String) :=
  [(some "slow.py", "x = 1\n"), (some "boom.py", "x = 1\n"), (none, "async def f():\n    await g()\n")]

def mixedFault? (filename : Option String) : Option Fault :=
  if filename = some "slow.py" then some .hang
  else if filename = some "boom.py" then some (.crash "kaboom")
  else none

theorem collect_reports_mixedFiles :
    let c := Course.start mixedFiles "r" { tickets := ⟨0⟩ }
    let past i := Course.history .default i (schedule .default mixedFault? mixedFiles) c
    let b := (dispatch .default mixedFault? mixedFiles "r" { tickets := ⟨0⟩ }).1
    ∀ i q, (inquiries mixedFiles "r")[i]? = some q → Ends .default q (past i) ∧
      ∃ entry, b.files[i]? = some entry ∧ Tells .default q (past i) entry := by
  intro c past b
  have enough : ∀ i < 3, 4 ≤ (actions i (schedule .default mixedFault? mixedFiles)).length ∨
      ∃ a ∈ actions i (schedule .default mixedFault? mixedFiles), a ≠ .advance := by
    decide +kernel
  have ended : ∀ i q, (inquiries mixedFiles "r")[i]? = some q → Ends .default q (past i) := by
    intro i q hq
    obtain ⟨hi, -⟩ := List.getElem?_eq_some_iff.1 hq
    exact ends_history .default q c (enough i hi)
  have reports : Reports .default (inquiries mixedFiles "r") past b :=
    collect_reports .default mixedFiles "r" { tickets := ⟨0⟩ } (schedule .default mixedFault? mixedFiles)
  exact fun i q hq => ⟨ended i q hq, reports.inTime ended i q hq⟩

end AwaitLint.Batch
