import AwaitLint.Lint.Run
import AwaitLint.Proofs.CommandLines
import AwaitLint.Proofs.FileNames
import AwaitLint.Proofs.PathTexts

/-! # What a run reports

Each file is checked by itself: apart from the identifiers of its suggestions, what it gives is determined by
its path and by what is read there. A run goes through the files and adds up what they give, under an
invariant that one more file keeps. The summary is told in lines or as a document, and the code at the end
says whether there are errors, or else suggestions.
-/

namespace AwaitLint

/-! ## What a file gives -/

namespace Suggestion

/-- A suggestion without its identifier. -/
def anonymous (s : Suggestion) : Suggestion := { s with id := "" }

/-- Apart from the identifiers, the suggestions do not depend on what is drawn for them. -/
theorem map_anonymous_report (filename : Option String) (ds : List Diagnostic) (k : Tickets) :
    (report filename ds k).1.map anonymous = merge (ds.map (ofDiagnostic "" filename)) := by
  have plain : ∀ s ∈ ds.map (ofDiagnostic "" filename), s.id = "" ∧ s.filename = filename := by
    intro s hs
    obtain ⟨d, -, rfl⟩ := List.mem_map.1 hs
    exact ⟨rfl, rfl⟩
  -- Both sides have the same content, and in both every suggestion names the file.
  have same : (report filename ds k).1.map content = (merge (ds.map (ofDiagnostic "" filename))).map content := by
    rw [map_content_report, map_content_merge fun s hs => (plain s hs).2, List.map_map]
    rfl
  have left : ∀ s ∈ (report filename ds k).1, s.anonymous = { s.content with filename := filename } := by
    intro s hs
    simp [anonymous, content, filename_of_mem_report hs]
  have right : ∀ s ∈ merge (ds.map (ofDiagnostic "" filename)),
      { s.content with filename := filename } = s := by
    intro s hs
    obtain ⟨u, hu, rfl⟩ := List.mem_map.1 (mem_merge hs)
    obtain ⟨hid, hname⟩ := plain u hu
    simp [content, scored, ← hid, ← hname]
  calc (report filename ds k).1.map anonymous
      = ((report filename ds k).1.map content).map ({ · with filename := filename }) := by
        rw [List.map_map]
        exact List.map_congr_left left
    _ = ((merge (ds.map (ofDiagnostic "" filename))).map content).map ({ · with filename := filename }) := by
        rw [same]
    _ = merge (ds.map (ofDiagnostic "" filename)) := by
        rw [List.map_map]
        exact (List.map_congr_left right).trans (List.map_id _)

end Suggestion

namespace Lint

/-- What a file gives by itself, from its path and from what is read there: its merged suggestions, or why
there are none. -/
def verdict (settings : Settings) (force : Bool) (p : Path) :
    Except ReadError String → Except FileError (List Suggestion)
  | .error e => .error (.unreadable e)
  | .ok code =>
    match Analysis.run settings (requestFor force p code) with
    | .error e => .error (.syntaxError e)
    | .ok o => .ok (Suggestion.merge (o.diagnostics.map (Suggestion.ofDiagnostic "" (some p.text))))

/-- The suggestions that a file adds. -/
def findingsOf : Except FileError (List Suggestion) → List Suggestion
  | .ok ss => ss
  | .error _ => []

/-- The entry of a file among the errors. -/
def entryOf (p : Path) : Except FileError (List Suggestion) → Option (String × String)
  | .ok _ => none
  | .error e => some (p.text, e.message p)

theorem check_eq_verdict {settings : Settings} {t : FileTree} {force : Bool} (p : Path) (k : Tickets) :
    (check settings t force p k).1.map (List.map Suggestion.anonymous) =
      verdict settings force p (t.readText p) := by
  unfold check diagnose verdict
  cases t.readText p with
  | error e => rfl
  | ok code =>
    simp only
    cases Analysis.run settings (requestFor force p code) with
    | error e => rfl
    | ok o => exact congrArg Except.ok (Suggestion.map_anonymous_report ..)

/-! ## Adding up -/

section Tally

variable {own : Path → Except FileError (List Suggestion)} {done : List Path} {s : Summary} {p : Path}
  {r : Except FileError (List Suggestion)}

namespace Summary

theorem checked_addFile : (s.addFile p r).checked = s.checked + 1 := by
  cases r <;> rfl

theorem findings_addFile : (s.addFile p r).findings = s.findings ++ findingsOf r := by
  cases r with
  | ok ss => rfl
  | error e => exact (List.append_nil _).symm

/-- An error that a path has already is not noted twice. -/
theorem errors_noteError {path message : String} (h : ∀ m, (path, m) ∈ s.errors → m = message) :
    (s.noteError path message).errors =
      if (path, message) ∈ s.errors then s.errors else s.errors ++ [(path, message)] := by
  have known : s.errors.any (·.1 == path) = true ↔ (path, message) ∈ s.errors := by
    rw [List.any_eq_true]
    constructor
    · rintro ⟨⟨q, m⟩, hmem, hq⟩
      obtain rfl := beq_iff_eq.1 hq
      exact h m hmem ▸ hmem
    · exact fun hmem => ⟨_, hmem, beq_self_eq_true _⟩
  rw [noteError]
  simp only [known]
  refine if_congr Iff.rfl ?_ rfl
  refine (List.map_congr_left fun e he => ?_).trans (List.map_id _)
  obtain ⟨q, m⟩ := e
  simp only [beq_iff_eq, id]
  split
  · next hq =>
    subst hq
    rw [h m he]
  · rfl

/-- What is noted under the path of a file agrees with the error that the file gives. -/
def Accords (s : Summary) (p : Path) (r : Except FileError (List Suggestion)) : Prop :=
  ∀ e, r = .error e → ∀ m, (p.text, m) ∈ s.errors → m = e.message p

theorem errors_addFile (h : s.Accords p r) :
    (s.addFile p r).errors = s.errors ++ (entryOf p r).toList.filter (· ∉ s.errors) := by
  cases r with
  | ok ss => exact (List.append_nil _).symm
  | error e =>
    refine (errors_noteError (s := { s with checked := s.checked + 1 }) (h e rfl)).trans ?_
    by_cases known : (p.text, e.message p) ∈ s.errors <;> simp [entryOf, known]

theorem nodup_paths_addFile (h : s.Accords p r) (nodup : (s.errors.map Prod.fst).Nodup) :
    ((s.addFile p r).errors.map Prod.fst).Nodup := by
  rw [errors_addFile h]
  cases r with
  | ok ss => simpa [entryOf] using nodup
  | error e =>
    by_cases known : (p.text, e.message p) ∈ s.errors
    · simpa [entryOf, known] using nodup
    · have fresh : ∀ q m, (q, m) ∈ s.errors → q ≠ p.text := by
        rintro q m hm rfl
        exact known (h e rfl m hm ▸ hm)
      simpa [entryOf, known, List.nodup_append, nodup] using fresh

end Summary

/-- The summary adds up what the files give by themselves, and it has one error for a path. -/
structure Tally (own : Path → Except FileError (List Suggestion)) (done : List Path) (s : Summary) : Prop where
  checked : s.checked = done.length
  findings : s.findings.map Suggestion.anonymous = done.flatMap fun p => findingsOf (own p)
  errors : s.errors = (done.filterMap fun p => entryOf p (own p)).eraseDups
  nodup : (s.errors.map Prod.fst).Nodup

namespace Tally

theorem start : Tally own [] {} := ⟨rfl, rfl, rfl, List.nodup_nil⟩

theorem mem_errors_iff (h : Tally own done s) {x : String × String} :
    x ∈ s.errors ↔ x ∈ done.filterMap fun p => entryOf p (own p) := by
  rw [h.errors, List.mem_eraseDups]

/-- Texts tell proper paths apart, so what is noted under the path of a file is its own error. -/
theorem error_of_mem (h : Tally own done s) (proper : ∀ q ∈ done, q.Proper) (hp : p.Proper) {m : String}
    (hm : (p.text, m) ∈ s.errors) : ∃ e, own p = .error e ∧ m = e.message p := by
  obtain ⟨q, hq, entry⟩ := List.mem_filterMap.1 (h.mem_errors_iff.1 hm)
  cases hown : own q with
  | ok ss =>
    rw [hown] at entry
    cases entry
  | error e =>
    rw [hown] at entry
    obtain ⟨text, rfl⟩ := Prod.mk.inj (Option.some.inj entry)
    obtain rfl := (proper q hq).text_inj hp text
    exact ⟨e, hown, rfl⟩

theorem mem_errors_of_error (h : Tally own done s) (hp : p ∈ done) {e : FileError} (he : own p = .error e) :
    (p.text, e.message p) ∈ s.errors := by
  refine h.mem_errors_iff.2 (List.mem_filterMap.2 ⟨p, hp, ?_⟩)
  rw [he]
  rfl

/-- One more file keeps the tally. -/
theorem addFile (h : Tally own done s) (proper : ∀ q ∈ done ++ [p], q.Proper)
    (result : r.map (List.map Suggestion.anonymous) = own p) : Tally own (done ++ [p]) (s.addFile p r) := by
  have sameFindings : (findingsOf r).map Suggestion.anonymous = findingsOf (own p) := by
    rw [← result]
    cases r <;> rfl
  have sameEntry : entryOf p r = entryOf p (own p) := by
    rw [← result]
    cases r <;> rfl
  have accords : s.Accords p r := by
    rintro e rfl m hm
    have before : ∀ q ∈ done, q.Proper := fun q hq => proper q (List.mem_append_left _ hq)
    obtain ⟨e', he', rfl⟩ := h.error_of_mem before (proper p (by simp)) hm
    rw [← result] at he'
    obtain rfl := Except.error.inj he'
    rfl
  refine ⟨?_, ?_, ?_, Summary.nodup_paths_addFile accords h.nodup⟩
  · rw [Summary.checked_addFile, h.checked, List.length_append, List.length_singleton]
  · rw [Summary.findings_addFile, List.map_append, h.findings, sameFindings, List.flatMap_append,
      List.flatMap_singleton]
  · rw [Summary.errors_addFile accords, List.filterMap_append, List.eraseDups_append, ← h.errors, sameEntry]
    congr 1
    cases he : entryOf p (own p) with
    | none => simp [he, List.removeAll]
    | some entry =>
      by_cases known : entry ∈ s.errors <;>
        simp [he, List.removeAll, ← h.mem_errors_iff, known, List.eraseDups_cons]

theorem checkAll {settings : Settings} {t : FileTree} {force : Bool} {ps : List Path}
    (h : Tally (fun p => verdict settings force p (t.readText p)) done s) (proper : ∀ q ∈ done ++ ps, q.Proper)
    (k : Tickets) :
    Tally (fun p => verdict settings force p (t.readText p)) (done ++ ps) (checkAll settings t force ps k s) := by
  induction ps generalizing done s k with
  | nil => rwa [Lint.checkAll, List.append_nil]
  | cons p ps ih =>
    rw [List.append_cons] at proper ⊢
    have step := h.addFile (fun q hq => proper q (List.mem_append_left _ hq)) (check_eq_verdict p k)
    exact ih step proper _

/-- The code at the end of a run, from what the files give. -/
theorem exitCode (h : Tally own done s) :
    s.exitCode = if (done.filterMap fun p => entryOf p (own p)).eraseDups ≠ [] then 2
      else if (done.flatMap fun p => findingsOf (own p)) ≠ [] then 1 else 0 := by
  rw [← h.errors, ← h.findings, Summary.exitCode]
  simp only [ne_eq, List.map_eq_nil_iff]

end Tally

end Tally

/-! ## Reports -/

def Notice.text? : Notice → Option String
  | .text line => some line
  | .record _ => none

/-- The lines on standard error that are no records. -/
def Outcome.remarks (o : Outcome) : List String := o.notices.filterMap Notice.text?

/-- The outcome tells these suggestions and errors: all in a document, or the suggestions in lines and the
errors in remarks. -/
def Outcome.Tells (o : Outcome) (json : Bool) (checked : Nat) (found : List Suggestion)
    (errors : List (String × String)) : Prop :=
  if json then
    o.remarks = [] ∧ ∃ identified : List Suggestion, identified.map Suggestion.anonymous = found ∧
      o.output = .document (.obj [("checked", .int checked),
        ("suggestions", .arr (identified.map Suggestion.toJson)),
        ("errors", .obj (errors.map fun (path, message) => (path, .str message)))])
  else
    o.output = .lines (found.map line) ∧ o.remarks = errors.map fun (path, message) => path ++ ": " ++ message

theorem filterMap_text?_logNotices (threshold : Log.Level) (es : List Event) :
    (logNotices threshold es).filterMap Notice.text? = [] := by
  rw [logNotices, List.filterMap_map, List.filterMap_eq_nil_iff]
  exact fun _ _ => rfl

theorem filterMap_text?_errorNotices (json : Bool) (s : Summary) :
    (errorNotices json s).filterMap Notice.text? =
      if json then [] else s.errors.map fun (path, message) => path ++ ": " ++ message := by
  cases json with
  | true => rfl
  | false =>
    rw [errorNotices, if_neg Bool.false_ne_true, List.filterMap_map]
    exact congrFun List.filterMap_eq_map _

/-- A run tells its summary. -/
theorem runWith_tells (settings : Settings) (t : FileTree) (a : Arguments) {level : Log.Level}
    (leveled : Log.threshold a.logLevel = .ok level) (k : Tickets) :
    let s := summarize settings t a k
    ∃ o, runWith settings t k a = .ok o ∧
      o.Tells a.json s.checked (s.findings.map Suggestion.anonymous) s.errors ∧ o.ending = .code s.exitCode := by
  intro s
  rw [runWith, leveled]
  refine ⟨_, rfl, ?_, rfl⟩
  rw [Outcome.Tells, Outcome.remarks, List.filterMap_append, List.filterMap_append, filterMap_text?_logNotices,
    filterMap_text?_logNotices, filterMap_text?_errorNotices, List.nil_append, List.append_nil]
  cases a.json with
  | true => exact ⟨rfl, s.findings, rfl, rfl⟩
  | false =>
    refine ⟨congrArg Output.lines ?_, rfl⟩
    rw [List.map_map]
    -- A line does not show the identifier.
    rfl

/-- Two awaits that could run together. -/
def pairOfAwaits : String := "async def f():\n    a = await g()\n    b = await h()\n"

/-- An empty file, one with a finding, and one that does not parse. -/
def faultyTree : FileTree where
  entries := [(["clean.py"], .file []), (["api"], .directory),
    (["api", "pair.py"], .file (pairOfAwaits.toList.map Char.toNat)), (["broken.py"], .file [40])]

end Lint

end AwaitLint
