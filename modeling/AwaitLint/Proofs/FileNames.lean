import AwaitLint.Proofs.CachedAnswers

/-! # The file that an answer names

A fresh answer names the file of its call, in itself and in every suggestion. An answer from the store
names the file of the call that it was computed for. That call has a zero neither in its text nor in its
file name, so its key is that of another call only if both have one text, and one file name or none and an
empty one.
-/

namespace AwaitLint

/-- The result and all its suggestions name this file. -/
structure AnalysisResult.NamesFile (r : AnalysisResult) (name : Option String) : Prop where
  result : r.filename = name
  suggestions : ∀ s ∈ r.suggestions, s.filename = name

theorem Suggestion.filename_of_mem_report {filename : Option String} {ds : List Diagnostic} {t : Tickets}
    {s : Suggestion} (h : s ∈ (report filename ds t).1) : s.filename = filename := by
  obtain ⟨u, hu, rfl⟩ := List.mem_map.1 (mem_merge h)
  obtain ⟨id, d, -, rfl⟩ := mem_ofDiagnostics hu
  rfl

namespace AnalysisResult

theorem namesFile_compute (settings : Settings) (id : String) (q : Inquiry) (t : Tickets) :
    (compute settings id q t).1.NamesFile q.filename := by
  unfold compute
  split
  · exact ⟨rfl, by simp [ofFault]⟩
  · exact ⟨rfl, fun s hs => Suggestion.filename_of_mem_report hs⟩

theorem NamesFile.reuse {r : AnalysisResult} {name : Option String} (h : r.NamesFile name) (p : Pending) :
    (Service.reuse p r).NamesFile name := ⟨h.result, h.suggestions⟩

end AnalysisResult

/-! ## Calls with one key and different files -/

namespace Inquiry

/-- The two calls have one text; one of them has no file name, and the other an empty one. -/
inductive ConfusedWith (q other : Inquiry) : Prop
  | missingName (code : other.code = q.code) (name : q.filename = none) (other_name : other.filename = some "")
  | emptyName (code : other.code = q.code) (name : q.filename = some "") (other_name : other.filename = none)

variable {q other : Inquiry}

theorem ConfusedWith.filename_ne (h : q.ConfusedWith other) : other.filename ≠ q.filename := by
  cases h with
  | missingName _ name other_name => simp [name, other_name]
  | emptyName _ name other_name => simp [name, other_name]

theorem filename_cases (hcode : other.code = q.code) (hname : other.filename.getD "" = q.filename.getD "") :
    other.filename = q.filename ∨ q.ConfusedWith other := by
  cases ho : other.filename with
  | none =>
    cases hq : q.filename with
    | none => exact .inl rfl
    | some name =>
      have hempty : name = "" := by simpa [ho, hq] using hname.symm
      exact .inr (.emptyName hcode (hempty ▸ hq) ho)
  | some name =>
    cases hq : q.filename with
    | none =>
      have hempty : name = "" := by simpa [ho, hq] using hname
      exact .inr (.missingName hcode hq (hempty ▸ ho))
    | some name' =>
      have hsame : name = name' := by simpa [ho, hq] using hname
      exact .inl (congrArg some hsame)

/-- Of two calls with one message, the first of which has no zero in its text and its file name, either
both name one file or they are confused. -/
theorem confusedWith_of_message_eq {ruleset : String} (hcode : '\x00' ∉ other.code.toList)
    (hname : '\x00' ∉ (other.filename.getD "").toList)
    (h : CodeKey.message other.code other.filename ruleset = CodeKey.message q.code q.filename ruleset) :
    other.filename = q.filename ∨ q.ConfusedWith other := by
  obtain ⟨code, name⟩ := CodeKey.message_inj_of_not_mem hcode hname h
  exact filename_cases code name

end Inquiry

/-! ## Answers -/

variable {settings : Settings} {qs : List Inquiry}

theorem AnalysisResult.ComputedFor.names_file {hash : String} {r : AnalysisResult}
    (h : r.ComputedFor settings qs hash) : ∃ q ∈ qs, CodeKey.of settings q.code q.filename = hash ∧
      '\x00' ∉ q.code.toList ∧ '\x00' ∉ (q.filename.getD "").toList ∧ r.NamesFile q.filename := by
  obtain ⟨q, hq, hkey, hfault, id, tickets, rfl⟩ := h
  obtain ⟨tree, hparse⟩ := (compute_fault settings id q tickets).1 hfault
  obtain ⟨hname, htext⟩ := Grammar.parseFile_eq_ok.1 hparse
  exact ⟨q, hq, hkey, Grammar.not_mem_of_parseText htext, hname, namesFile_compute settings id q tickets⟩

theorem Call.Sound.names_file {c : Call} {r : AnalysisResult} {wasKept : Bool}
    (free : CollisionFree settings qs) (hc : c.Sound settings qs) (hs : c.stage = .answered r wasKept) :
    r.NamesFile c.inquiry.filename ∨
      wasKept = true ∧ ∃ q ∈ qs, r.NamesFile q.filename ∧ c.inquiry.ConfusedWith q := by
  have hstage := hc.stage
  rw [hs] at hstage
  cases wasKept with
  | false =>
    obtain ⟨tickets, rfl⟩ := hstage
    exact .inl (AnalysisResult.namesFile_compute settings c.analysisId c.inquiry tickets)
  | true =>
    obtain ⟨kept, hkept, rfl⟩ := hstage
    obtain ⟨q, hq, hkey, hcode, hname, names⟩ := hkept.names_file
    have hmessage := free q hq c.inquiry hc.mem
      (CodeKey.digest_eq_of_ofRuleset_eq (hkey.trans hc.codeHash.symm))
    rcases Inquiry.confusedWith_of_message_eq hcode hname hmessage with hsame | hconfused
    · exact .inl ((hsame ▸ names).reuse _)
    · exact .inr ⟨rfl, q, hq, names.reuse _, hconfused⟩

namespace Traffic

/-- Whichever steps of the calls and failures of the store a run mixes, an answer names one file, in
itself and in its suggestions. It is the file of its call, except exactly if the answer comes from the
store and was computed for a call with another file that the key does not tell apart. -/
theorem run_names_file (settings : Settings) (s : Service) (events : List Event)
    (empty : ∀ hash, s.store.kept? hash = none) (free : CollisionFree settings (arrivals events)) :
    ∀ c ∈ (run settings events ⟨s, []⟩).calls, ∀ r wasKept, c.stage = .answered r wasKept →
      ∃ name, r.NamesFile name ∧ (name ≠ c.inquiry.filename ↔ wasKept = true ∧
        ∃ q ∈ arrivals events, q.filename = name ∧ c.inquiry.ConfusedWith q) := by
  intro c hc r wasKept hs
  have sound : Sound settings (arrivals events) (run settings events ⟨s, []⟩) :=
    sound_run (sound_of_empty empty) (List.Subset.refl _)
  rcases (sound.calls c hc).names_file free hs with names | ⟨hkept, q, hq, names, confused⟩
  · refine ⟨c.inquiry.filename, names, fun other => absurd rfl other, ?_⟩
    rintro ⟨-, q, -, hname, confused⟩
    exact absurd hname confused.filename_ne
  · refine ⟨q.filename, names, fun _ => ⟨hkept, q, hq, rfl, confused⟩, ?_⟩
    exact fun _ => confused.filename_ne

/-- The call between the two that share a text names its file. -/
theorem run_names_file_takingTurns :
    let t := run fewPatterns takingTurns ⟨{ store := litteredStore, tickets := ⟨0⟩ }, []⟩
    ∃ c ∈ t.calls, ∃ r wasKept, c.inquiry.requestId = "other" ∧ c.stage = .answered r wasKept ∧
      r.NamesFile (some "x.py") := by
  intro t
  have named := run_names_file fewPatterns { store := litteredStore, tickets := ⟨0⟩ } takingTurns
    kept?_litteredStore collisionFree_sharedText
  obtain ⟨c, r, wasKept, hc, hs, hq⟩ := exists_answered fewPatterns
    { store := litteredStore, tickets := ⟨0⟩ } (by decide : 1 < (arrivals (sharedText.map .arrive)).length)
    (by decide : 3 ≤ (takingTurns.drop 3).count (.advance 1))
  have hmem : c ∈ t.calls := List.mem_of_getElem? hc
  obtain ⟨q, id, hash, stage⟩ := c
  obtain rfl : (⟨"x = 1\n", some "x.py", "other"⟩ : Inquiry) = q := Option.some.inj hq
  refine ⟨_, hmem, r, wasKept, rfl, hs, ?_⟩
  obtain ⟨name, names, different⟩ := named _ hmem r wasKept hs
  by_cases hname : name = some "x.py"
  · exact hname ▸ names
  · obtain ⟨-, other, -, -, confused⟩ := different.1 hname
    cases confused with
    | missingName _ missing _ => simp at missing
    | emptyName _ empty _ => simp at empty

end Traffic

namespace Service

/-- What a store that answers was given to keep is readable at once. -/
theorem readable_keep (s : Service) (up : s.store.down = []) (hash : String) (r : AnalysisResult)
    (ttl : Option Int) :
    readable hash (s.keep settings hash r ttl).2.store = AnalysisResult.ofText? r.toText := by
  have kept : (s.keep settings hash r ttl).2.store =
      { s.store.put (keyOf hash) r.toText with lastTtl := some (lifetime settings ttl) } := by
    simp [keep, Store.set, Store.attempt, up]
  have found : ((s.keep settings hash r ttl).2.store).get (keyOf hash) = .ok (some r.toText) := by
    have hlookup := Store.lookup_put (keyOf hash) (keyOf hash) r.toText s.store
    rw [if_pos rfl] at hlookup
    have hdown : (s.store.put (keyOf hash) r.toText).down = [] := up
    rw [kept, Store.get, Store.attempt]
    simp only [hdown, List.contains_nil, Bool.false_eq_true, if_false]
    exact congrArg Except.ok hlookup
  simp only [readable, found]

/-- After a call whose text parses, what was computed for it is readable under its key. -/
theorem readable_analyze {s : Service} {q : Inquiry} (up : s.store.down = [])
    (missing : readable (CodeKey.of settings q.code q.filename) s.store = none)
    (parses : ∃ tree, Grammar.parseFile (q.filename.getD "") q.code.toList = .ok tree) :
    ∃ id tickets, readable (CodeKey.of settings q.code q.filename) (s.analyze settings q).2.store =
      some (AnalysisResult.compute settings id q tickets).1 := by
  let key := CodeKey.of settings q.code q.filename
  let id := (s.tickets.draw "an" 12).1
  let s₁ : Service := ⟨s.store, s.counters.miss, (s.tickets.draw "an" 12).2⟩
  let r := (AnalysisResult.compute settings id q s₁.tickets).1
  let s₂ : Service := ⟨s.store, count r s₁.counters, (AnalysisResult.compute settings id q s₁.tickets).2⟩
  have first : s.start settings q = (⟨q, id, key, none⟩, s₁) := by
    simp only [start, find, missing]
    rfl
  have fault : r.fault = none := (AnalysisResult.compute_fault _ _ _ _).2 parses
  have second : s₁.finish settings ⟨q, id, key, none⟩ = (r, (s₂.keep settings key r none).2) := by
    change (if r.fault.isSome then (r, s₂) else (r, (s₂.keep settings key r none).2)) = _
    simp [fault]
  have whole : s.analyze settings q = (r, (s₂.keep settings key r none).2) := by
    rw [analyze, first]
    exact second
  have kept : readable key (s₂.keep settings key r none).2.store = AnalysisResult.ofText? r.toText :=
    readable_keep s₂ up key r none
  refine ⟨id, s₁.tickets, ?_⟩
  rw [whole]
  exact kept.trans (AnalysisResult.ofText?_compute settings id q s₁.tickets)

theorem analyze_of_readable {s : Service} {q : Inquiry} {r : AnalysisResult}
    (h : readable (CodeKey.of settings q.code q.filename) s.store = some r) :
    ∃ p, (s.analyze settings q).1 = reuse p r := by
  unfold analyze start finish find
  simp only [h]
  exact ⟨_, rfl⟩

/-- Of two calls about one text, the first without a file name and the second with an empty one, the
second is answered with the missing name of the first. -/
theorem analyze_names_other_file :
    let first : Inquiry := ⟨Traffic.twoAwaits, none, "first"⟩
    let second : Inquiry := ⟨Traffic.twoAwaits, some "", "second"⟩
    let s : Service := { tickets := ⟨0⟩ }
    ¬ ((s.analyze Traffic.fewPatterns first).2.analyze Traffic.fewPatterns second).1.NamesFile
      second.filename := by
  intro first second s names
  have hok : (Grammar.parseFile (first.filename.getD "") first.code.toList).isOk = true := by
    decide +kernel
  obtain ⟨id, tickets, found⟩ : ∃ id tickets, readable (CodeKey.of Traffic.fewPatterns first.code first.filename)
      (s.analyze Traffic.fewPatterns first).2.store =
        some (AnalysisResult.compute Traffic.fewPatterns id first tickets).1 :=
    readable_analyze rfl rfl (Grammar.exists_of_isOk hok)
  -- the key of the second call is the key of the first
  obtain ⟨p, answer⟩ : ∃ p, ((s.analyze Traffic.fewPatterns first).2.analyze Traffic.fewPatterns second).1 =
      reuse p (AnalysisResult.compute Traffic.fewPatterns id first tickets).1 :=
    analyze_of_readable found
  rw [answer] at names
  have missing := (AnalysisResult.namesFile_compute Traffic.fewPatterns id first tickets).reuse p
  exact absurd (missing.result.symm.trans names.result) (by decide)

end Service

end AwaitLint
