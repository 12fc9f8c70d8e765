import AwaitLint.Proofs.ResultText

/-! # What a fresh result says

Apart from identifiers and file names, a fresh result depends on the text and on whether the file name is
empty, but not on who asks or on the identifiers that are drawn. The numbers in its suggestions read back,
so it is read back from its text.
-/

namespace AwaitLint

namespace Suggestion

/-- A suggestion without its identifier and its file name. -/
def content (s : Suggestion) : Suggestion := { s with id := "", filename := none }

theorem mem_insert {s x : Suggestion} {ts : List Suggestion} (h : x ∈ insert s ts) :
    x = s ∨ x ∈ ts := by
  induction ts with
  | nil => simpa [insert] using h
  | cons t ts ih =>
    rw [insert] at h
    split at h
    · rcases List.mem_cons.1 h with rfl | h
      · split <;> simp
      · exact .inr (List.mem_cons_of_mem _ h)
    · rcases List.mem_cons.1 h with rfl | h
      · exact .inr List.mem_cons_self
      · exact (ih h).imp_right (List.mem_cons_of_mem _)

theorem mem_foldl_insert {x : Suggestion} {ss found : List Suggestion}
    (h : x ∈ ss.foldl (fun found s => insert s found) found) : x ∈ found ∨ x ∈ ss := by
  induction ss generalizing found with
  | nil => exact .inl h
  | cons s ss ih =>
    rcases ih h with h | h
    · exact (mem_insert h).elim (fun e => .inr (e ▸ List.mem_cons_self)) .inl
    · exact .inr (List.mem_cons_of_mem _ h)

theorem mem_merge {x : Suggestion} {ss : List Suggestion} (h : x ∈ merge ss) : x ∈ ss.map scored := by
  rw [merge, List.mem_mergeSort, distinct] at h
  exact (mem_foldl_insert h).resolve_left List.not_mem_nil

theorem mem_ofDiagnostics {filename : Option String} {x : Suggestion} {ds : List Diagnostic} {t : Tickets}
    (h : x ∈ (ofDiagnostics filename ds t).1) : ∃ id, ∃ d ∈ ds, x = ofDiagnostic id filename d := by
  induction ds generalizing t with
  | nil => simp [ofDiagnostics] at h
  | cons d ds ih =>
    rw [ofDiagnostics] at h
    rcases List.mem_cons.1 h with rfl | h
    · exact ⟨_, d, List.mem_cons_self, rfl⟩
    · obtain ⟨id, e, he, hx⟩ := ih h
      exact ⟨id, e, List.mem_cons_of_mem _ he, hx⟩

/-! ## Keeping -/

theorem readsBack_of_text {x : Binary64} (ds : List Char)
    (text : (Binary64.keptLayout.render x).toList = '0' :: '.' :: ds)
    (hd : ds.all Char.isDigit = true) (hne : ds ≠ [])
    (value : .ofDecimal false (Json.digitValue ('0' :: ds)) (-ds.length) = x) : Json.ReadsBack x := by
  intro rest pos hs
  rw [text, Json.readNumber?_fraction (List.all_eq_true.1 hd) hne hs, value]

/-- The numbers that the rules give read back. -/
theorem readsBack_ofKind (k : Kind) : Json.ReadsBack (Rule.ofKind k).confidence ∧
    Json.ReadsBack (scoreOf (Rule.ofKind k).severity (Rule.ofKind k).confidence) := by
  cases k with
  | waterfallChain =>
    exact ⟨readsBack_of_text ['6'] (by decide +kernel) (by decide) (by decide) (by decide +kernel),
      readsBack_of_text ['3', '6'] (by decide +kernel) (by decide) (by decide) (by decide +kernel)⟩
  | preferParallelCombinator =>
    exact ⟨readsBack_of_text ['8', '5'] (by decide +kernel) (by decide) (by decide) (by decide +kernel),
      readsBack_of_text ['3', '4'] (by decide +kernel) (by decide) (by decide) (by decide +kernel)⟩

theorem keepable_scored (id : String) (filename : Option String) (d : Diagnostic) :
    (ofDiagnostic id filename d).scored.Keepable where
  severity := by
    simp only [scored, ofDiagnostic]
    cases d.kind <;> decide
  confidence := by
    simp only [scored, ofDiagnostic]
    cases d.kind <;> decide +kernel
  readsBack := readsBack_ofKind d.kind

theorem keepable_of_mem_report {filename : Option String} {ds : List Diagnostic} {t : Tickets}
    {s : Suggestion} (h : s ∈ (report filename ds t).1) : s.Keepable := by
  obtain ⟨u, hu, rfl⟩ := List.mem_map.1 (mem_merge h)
  obtain ⟨id, d, -, rfl⟩ := mem_ofDiagnostics hu
  exact keepable_scored id filename d

/-! ## Content -/

theorem key_eq_iff {s t : Suggestion} (h : s.filename = t.filename) :
    s.key = t.key ↔ s.content.key = t.content.key := by
  simp [key, content, h]

theorem map_content_insert {f : Option String} {s : Suggestion} {ts : List Suggestion}
    (hs : s.filename = f) (ht : ∀ t ∈ ts, t.filename = f) :
    (insert s ts).map content = insert s.content (ts.map content) := by
  induction ts with
  | nil => rfl
  | cons t ts ih =>
    have hk := key_eq_iff (hs.trans (ht t List.mem_cons_self).symm)
    rw [insert, List.map_cons, insert, ← ih fun u hu => ht u (List.mem_cons_of_mem _ hu)]
    simp only [hk]
    split
    · rw [List.map_cons]
      congr 1
      change content (if better s t = true then s else t) =
        if better s t = true then s.content else t.content
      split <;> rfl
    · rfl

theorem map_content_foldl {f : Option String} {ss found : List Suggestion}
    (hs : ∀ s ∈ ss, s.filename = f) (hf : ∀ t ∈ found, t.filename = f) :
    (ss.foldl (fun found s => insert s found) found).map content =
      (ss.map content).foldl (fun found s => insert s found) (found.map content) := by
  induction ss generalizing found with
  | nil => rfl
  | cons s ss ih =>
    have hs' := hs s List.mem_cons_self
    rw [List.foldl_cons, List.map_cons, List.foldl_cons, ← map_content_insert hs' hf]
    refine ih (fun u hu => hs u (List.mem_cons_of_mem _ hu)) fun u hu => ?_
    exact (mem_insert hu).elim (fun e => e ▸ hs') (hf u)

/-- Suggestions with one file name are merged as they are without it. -/
theorem map_content_merge {f : Option String} {ss : List Suggestion} (h : ∀ s ∈ ss, s.filename = f) :
    (merge ss).map content = merge (ss.map content) := by
  have hscored : ∀ s ∈ ss.map scored, s.filename = f := by
    intro s hs
    obtain ⟨u, hu, rfl⟩ := List.mem_map.1 hs
    exact h u hu
  have hd : ∀ s ∈ distinct (ss.map scored), s.filename = f := fun s hs =>
    hscored s ((mem_foldl_insert hs).resolve_left List.not_mem_nil)
  have hle : ∀ s ∈ distinct (ss.map scored), ∀ t ∈ distinct (ss.map scored),
      le s t = le s.content t.content := by
    intro s hs t ht
    simp only [le, content, hd s hs, hd t ht, ne_eq, not_true_eq_false, if_false]
    rfl
  have order : (ss.map scored).map content = (ss.map content).map scored := by
    simp only [List.map_map]
    rfl
  rw [merge, List.map_mergeSort hle, merge, distinct, map_content_foldl hscored (by simp), order]
  rfl

theorem map_content_ofDiagnostics (filename : Option String) (ds : List Diagnostic) (t : Tickets) :
    (ofDiagnostics filename ds t).1.map content = ds.map (ofDiagnostic "" none) := by
  induction ds generalizing t with
  | nil => rfl
  | cons d ds ih =>
    rw [ofDiagnostics, List.map_cons, List.map_cons, ih]
    rfl

theorem map_content_report (filename : Option String) (ds : List Diagnostic) (t : Tickets) :
    (report filename ds t).1.map content = merge (ds.map (ofDiagnostic "" none)) := by
  have h : ∀ s ∈ (ofDiagnostics filename ds t).1, s.filename = filename := by
    intro s hs
    obtain ⟨id, d, -, rfl⟩ := mem_ofDiagnostics hs
    rfl
  rw [report, map_content_merge h, map_content_ofDiagnostics]

end Suggestion

/-- Without a file name and with an empty one, the same rules apply. -/
theorem Eligibility.resolve_congr {f g : Option String} (h : f.getD "" = g.getD "")
    (directive : Option String) (handlers services : String) :
    resolve f directive handlers services = resolve g directive handlers services := by
  cases f <;> cases g <;> simp_all [resolve]

theorem Analysis.run_congr (settings : Settings) (code : String) {f g : Option String}
    (h : f.getD "" = g.getD "") :
    run settings { code := code, filename := f } = run settings { code := code, filename := g } := by
  have he : ∀ comments, eligibility settings { code := code, filename := f } comments =
      eligibility settings { code := code, filename := g } comments :=
    fun _ => Eligibility.resolve_congr h _ _ _
  have ht : ofTree settings { code := code, filename := f } =
      ofTree settings { code := code, filename := g } := by
    funext tree
    simp only [ofTree, he]
    rfl
  simp only [run, parse, h, ht]

namespace AnalysisResult

/-- The results say the same, apart from who asked and from identifiers and file names. -/
structure Agrees (r r' : AnalysisResult) : Prop where
  suggestions : r.suggestions.map Suggestion.content = r'.suggestions.map Suggestion.content
  rulesApplied : r.rulesApplied = r'.rulesApplied
  functions : r.functions = r'.functions
  codeHash : r.codeHash = r'.codeHash
  fault : r.fault = r'.fault

/-- A fresh result carries what it was asked with. -/
theorem compute_carries (settings : Settings) (id : String) (q : Inquiry) (t : Tickets) :
    let r := (compute settings id q t).1
    r.analysisId = id ∧ r.requestId = q.requestId ∧ r.fromCache = false ∧
      r.codeHash = CodeKey.of settings q.code q.filename := by
  unfold compute
  split <;> exact ⟨rfl, rfl, rfl, rfl⟩

/-- Two fresh results for one text agree. -/
theorem compute_agrees (settings : Settings) {q q' : Inquiry} (hc : q.code = q'.code)
    (hf : q.filename.getD "" = q'.filename.getD "") (id id' : String) (t t' : Tickets) :
    (compute settings id q t).1.Agrees (compute settings id' q' t').1 := by
  have hrun : Analysis.run settings { code := q'.code, filename := q'.filename } =
      Analysis.run settings { code := q.code, filename := q.filename } :=
    hc ▸ Analysis.run_congr settings q.code hf.symm
  have hhash : CodeKey.of settings q.code q.filename = CodeKey.of settings q'.code q'.filename := by
    simp only [CodeKey.of, CodeKey.ofRuleset, CodeKey.message, hc, hf]
  unfold compute
  rw [hrun]
  cases Analysis.run settings { code := q.code, filename := q.filename } with
  | error e => exact ⟨rfl, rfl, rfl, hhash, rfl⟩
  | ok o =>
    refine ⟨?_, rfl, rfl, hhash, rfl⟩
    simp only [ofOutcome, Suggestion.map_content_report]

/-- A fresh result has a fault exactly if the text does not parse under its name. -/
theorem compute_fault (settings : Settings) (id : String) (q : Inquiry) (t : Tickets) :
    (compute settings id q t).1.fault = none ↔
      ∃ tree, Grammar.parseFile (q.filename.getD "") q.code.toList = .ok tree := by
  unfold compute
  cases h : Grammar.parseFile (q.filename.getD "") q.code.toList with
  | error e => simp [Analysis.run, Analysis.parse, h, Except.map, ofFault]
  | ok tree => simp [Analysis.run, Analysis.parse, h, Except.map, ofOutcome]

/-- A fresh result is read back from its text. -/
theorem ofText?_compute (settings : Settings) (id : String) (q : Inquiry) (t : Tickets) :
    ofText? (compute settings id q t).1.toText = some (compute settings id q t).1 := by
  refine ofText?_toText ?_
  unfold compute
  split
  · simp [ofFault]
  · exact fun s hs => Suggestion.keepable_of_mem_report hs

end AnalysisResult

end AwaitLint
