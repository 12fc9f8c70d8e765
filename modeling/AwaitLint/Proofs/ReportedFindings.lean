import AwaitLint.Lint.Check
import AwaitLint.Proofs.MergeLaws

/-! # Findings and what is reported about them

A report lists every finding once and nothing else, if no two findings have one kind, line and column: only
such findings are about the same thing. Lines and columns come in their order, and where both rules found
something on one spot, the chain of awaits has the higher score and comes first.
-/

namespace AwaitLint

/-- The finding comes before the other one in a report for one file. -/
def Diagnostic.Precedes (d e : Diagnostic) : Prop :=
  d.line < e.line ∨ d.line = e.line ∧ (d.column < e.column ∨
    d.column = e.column ∧ d.kind = .waterfallChain ∧ e.kind = .preferParallelCombinator)

namespace Suggestion

/-- What the suggestion says was found. -/
def finding (s : Suggestion) : Diagnostic := ⟨s.rule, s.line, s.column, s.endLine, s.endColumn⟩

/-- The suggestions are those for the findings in a file, one for each, in the order of a report. -/
structure Reports (filename : Option String) (ds : List Diagnostic) (ss : List Suggestion) : Prop where
  findings : (ss.map finding).Perm ds
  filename : ∀ s ∈ ss, s.filename = filename
  ordered : (ss.map finding).Pairwise Diagnostic.Precedes

/-! ## One suggestion for each finding -/

section Report

variable {filename : Option String} {ds : List Diagnostic}

theorem map_key_ofDiagnostics (filename : Option String) (ds : List Diagnostic) (t : Tickets) :
    (ofDiagnostics filename ds t).1.map key =
      ds.map fun d => (filename, d.kind, d.line, d.column) := by
  induction ds generalizing t with
  | nil => rfl
  | cons d ds ih =>
    rw [ofDiagnostics, List.map_cons, List.map_cons, ih]
    rfl

theorem map_finding_ofDiagnostics (filename : Option String) (ds : List Diagnostic) (t : Tickets) :
    (ofDiagnostics filename ds t).1.map finding = ds := by
  induction ds generalizing t with
  | nil => rfl
  | cons d ds ih =>
    rw [ofDiagnostics, List.map_cons, ih]
    rfl

theorem nodup_key_ofDiagnostics (apart : (ds.map fun d => (d.kind, d.line, d.column)).Nodup)
    (t : Tickets) : ((ofDiagnostics filename ds t).1.map key).Nodup := by
  have hpairs : ds.map (fun d => (filename, d.kind, d.line, d.column)) =
      (ds.map fun d => (d.kind, d.line, d.column)).map (Prod.mk filename) := by
    rw [List.map_map]
    rfl
  rw [map_key_ofDiagnostics, hpairs]
  exact apart.map (Prod.mk_right_injective filename)

/-- Nothing is lost and nothing is made up. -/
theorem report_perm (apart : (ds.map fun d => (d.kind, d.line, d.column)).Nodup) (t : Tickets) :
    (report filename ds t).1.Perm ((ofDiagnostics filename ds t).1.map scored) := by
  have hkept := merge_perm (ofDiagnostics filename ds t).1
  rwa [distinct_of_nodup (nodup_key_ofDiagnostics apart t)] at hkept

/-! ## The order on one spot -/

/-- A chain of awaits scores higher than awaits that could run together. -/
theorem score_runs_lt_score_chain :
    (scoreOf (Rule.ofKind .preferParallelCombinator).severity
      (Rule.ofKind .preferParallelCombinator).confidence).value <
    (scoreOf (Rule.ofKind .waterfallChain).severity (Rule.ofKind .waterfallChain).confidence).value :=
  (Binary64.lt_iff (by decide +kernel) (by decide +kernel)).1 (by decide +kernel)

theorem weighed_ofDiagnostic (id : String) (filename : Option String) (d : Diagnostic) :
    (ofDiagnostic id filename d).Weighed where
  severity := by
    simp only [ofDiagnostic]
    cases d.kind <;> decide
  confidence := by
    simp only [ofDiagnostic]
    cases d.kind <;> decide +kernel

theorem precedes_of_spot_le {id id' : String} {d e : Diagnostic}
    (hkey : (ofDiagnostic id filename d).key ≠ (ofDiagnostic id' filename e).key)
    (hspot : (ofDiagnostic id filename d).scored.spot ≤ (ofDiagnostic id' filename e).scored.spot) :
    d.Precedes e := by
  simp only [spot, scored, ofDiagnostic, Prod.Lex.toLex_le_toLex, lt_irrefl, true_and, false_or] at hspot
  rcases hspot with hline | ⟨hline, hcolumn | ⟨hcolumn, hscore⟩⟩
  · exact .inl hline
  · exact .inr ⟨hline, .inl hcolumn⟩
  · refine .inr ⟨hline, .inr ⟨hcolumn, ?_⟩⟩
    have hkind : d.kind ≠ e.kind := fun h => hkey (by simp [key, ofDiagnostic, h, hline, hcolumn])
    cases hd : d.kind <;> cases he : e.kind
    · exact absurd (hd.trans he.symm) hkind
    · exact ⟨rfl, rfl⟩
    · -- the chain would come after the runs with a higher score
      rw [hd, he] at hscore
      have hlt := score_runs_lt_score_chain
      rcases hscore with h | ⟨h, -⟩
      · exact absurd (OrderDual.toDual_lt_toDual.1 h) (lt_asymm hlt)
      · exact absurd (OrderDual.toDual_inj.1 h) hlt.ne
    · exact absurd (hd.trans he.symm) hkind

theorem reports_report (apart : (ds.map fun d => (d.kind, d.line, d.column)).Nodup) (t : Tickets) :
    Reports filename ds (report filename ds t).1 := by
  have hperm : (report filename ds t).1.Perm ((ofDiagnostics filename ds t).1.map scored) := report_perm apart t
  have hmade : ∀ s ∈ (report filename ds t).1, ∃ id d, s = (ofDiagnostic id filename d).scored := by
    intro s hs
    obtain ⟨u, hu, rfl⟩ := List.mem_map.1 (hperm.mem_iff.1 hs)
    obtain ⟨id, d, -, rfl⟩ := mem_ofDiagnostics hu
    exact ⟨id, d, rfl⟩
  have hweighed : ∀ s ∈ (ofDiagnostics filename ds t).1, s.Weighed := by
    intro s hs
    obtain ⟨id, d, -, rfl⟩ := mem_ofDiagnostics hs
    exact weighed_ofDiagnostic id filename d
  have hkeys : ((report filename ds t).1.map key).Nodup := by
    rw [(hperm.map key).nodup_iff, map_key_scored]
    exact nodup_key_ofDiagnostics apart t
  refine ⟨?_, fun s hs => ?_, ?_⟩
  · have hfindings : ((ofDiagnostics filename ds t).1.map scored).map finding = ds := by
      rw [List.map_map]
      exact map_finding_ofDiagnostics filename ds t
    exact (hperm.map finding).trans (List.Perm.of_eq hfindings)
  · obtain ⟨id, d, rfl⟩ := hmade s hs
    rfl
  · rw [List.pairwise_map]
    refine ((sorted_merge hweighed).and (List.pairwise_map.1 hkeys)).imp_of_mem ?_
    rintro s u hs hu ⟨hspot, hkey⟩
    obtain ⟨id, d, rfl⟩ := hmade s hs
    obtain ⟨id', e, rfl⟩ := hmade u hu
    exact precedes_of_spot_le hkey hspot

end Report

/-- A report loses and invents nothing, and neither do the results of the service and of the command line,
which are such reports. -/
theorem report_lists_findings (filename : Option String) {ds : List Diagnostic}
    (apart : (ds.map fun d => (d.kind, d.line, d.column)).Nodup) (t : Tickets) :
    Reports filename ds (report filename ds t).1 ∧
      (∀ settings id (q : Inquiry) o, Analysis.run settings { code := q.code, filename := q.filename } = .ok o →
        o.diagnostics = ds → q.filename = filename →
        Reports filename ds (AnalysisResult.compute settings id q t).1.suggestions) ∧
      ∀ settings tree force (path : Path), Lint.diagnose settings tree force path = .ok ds →
        some path.text = filename →
        ∃ ss, (Lint.check settings tree force path t).1 = .ok ss ∧ Reports filename ds ss := by
  refine ⟨reports_report apart t, ?_, ?_⟩
  · rintro settings id q o hrun rfl rfl
    rw [AnalysisResult.compute, hrun]
    exact reports_report apart t
  · rintro settings tree force path hfound rfl
    rw [Lint.check, hfound]
    exact ⟨_, rfl, reports_report apart t⟩

/-- Both rules on one spot, the runs before the chain, after a spot further down. -/
def crossedFindings : List Diagnostic :=
  [⟨.waterfallChain, 7, 4, 7, 20⟩, ⟨.preferParallelCombinator, 3, 4, 3, 20⟩, ⟨.waterfallChain, 3, 4, 5, 1⟩]

/-- Two awaits that could run together. -/
def pairText : String := "async def f():\n    a = await g()\n    b = await h()\n"

def pairFindings : List Diagnostic := [⟨.preferParallelCombinator, 3, 4, 3, 17⟩]

theorem report_lists_findings_crossedFindings :
    let tree : FileTree := ⟨[(["a.py"], .file (pairText.toList.map Char.toNat))]⟩
    Reports (some "a.py") crossedFindings (report (some "a.py") crossedFindings ⟨0⟩).1 ∧
      Reports none pairFindings
        (AnalysisResult.compute .default "an-1" ⟨pairText, none, "r"⟩ ⟨0⟩).1.suggestions ∧
      ∃ ss, (Lint.check .default tree true ⟨"", ["a.py"]⟩ ⟨0⟩).1 = .ok ss ∧
        Reports (some "a.py") pairFindings ss := by
  intro tree
  have found : (Analysis.run .default { code := pairText }).toOption.map (·.diagnostics) =
      some pairFindings := by
    decide +kernel
  have foundInFile : (Lint.diagnose .default tree true ⟨"", ["a.py"]⟩).toOption = some pairFindings := by
    decide +kernel
  refine ⟨(report_lists_findings (some "a.py") (by decide) ⟨0⟩).1, ?_, ?_⟩
  · cases hrun : Analysis.run .default { code := pairText } with
    | error e => simp [hrun, Except.toOption] at found
    | ok o =>
      refine (report_lists_findings none (by decide) ⟨0⟩).2.1 .default "an-1" ⟨pairText, none, "r"⟩ o hrun
        ?_ rfl
      simpa [hrun, Except.toOption] using found
  · cases hfound : Lint.diagnose .default tree true ⟨"", ["a.py"]⟩ with
    | error e => simp [hfound, Except.toOption] at foundInFile
    | ok ds =>
      obtain rfl : ds = pairFindings := by simpa [hfound, Except.toOption] using foundInFile
      exact (report_lists_findings (some "a.py") (by decide) ⟨0⟩).2.2 .default tree true ⟨"", ["a.py"]⟩ hfound
        (by decide +kernel)

end Suggestion

end AwaitLint
