import AwaitLint.Proofs.ConcurrentCalls
import AwaitLint.Proofs.NumberTexts
import AwaitLint.Proofs.ResultText

/-! # A kept result is found again

A result that the store has taken is found under its digest with every field as it was, and what is found under the
other digests does not change. The numbers of a result are finite and in normal form, so their texts read back.
-/

namespace AwaitLint

/-- The bounds hold, and the numbers are finite. -/
structure Suggestion.Valid (s : Suggestion) : Prop extends s.Admissible where
  confidence_representable : s.confidence.Representable
  score_representable : s.score.Representable

theorem Suggestion.Valid.keepable {s : Suggestion} (h : s.Valid) : s.Keepable :=
  ⟨h.toAdmissible, h.confidence_representable.readsBack, h.score_representable.readsBack⟩

/-- Every suggestion is valid; the other fields take any value. -/
def AnalysisResult.Valid (r : AnalysisResult) : Prop := ∀ s ∈ r.suggestions, s.Valid

namespace Service

/-- What can be read is what the store holds, if it answers. -/
theorem readable_eq (hash : String) (store : Store) :
    readable hash store = if Command.get ∈ store.down then none else store.kept? hash := by
  unfold readable Store.get Store.attempt
  by_cases down : Command.get ∈ store.down
  · simp [down]
  · simp only [List.contains_eq_mem, down, decide_false, Bool.false_eq_true, if_false, Store.kept?]
    cases store.lookup (keyOf hash) <;> rfl

theorem find_eq (hash : String) (s : Service) : (s.find hash).1 = readable hash s.store := by
  unfold find
  split <;> simp [*]

variable {settings : Settings} {hash : String} {r : AnalysisResult} {ttl : Option Int} {s s' : Service}

/-- A result that is taken is put into the store, and the store answers as before. -/
theorem keep_eq_true (h : s.keep settings hash r ttl = (true, s')) : s'.store.down = s.store.down ∧
    ∀ other, s'.store.kept? other =
      if other = hash then AnalysisResult.ofText? r.toText else s.store.kept? other := by
  unfold keep at h
  split at h
  · next store hset =>
    rw [Prod.mk.injEq] at h
    obtain ⟨-, rfl⟩ := h
    refine ⟨?_, fun other => ?_⟩
    · unfold Store.set Store.attempt at hset
      split at hset
      · cases hset
      · rw [← Except.ok.inj hset]
        rfl
    · simp only [Store.kept?, Store.lookup_set hset, keyOf_inj]
      by_cases same : other = hash
      · rw [if_pos same, if_pos same, Option.bind_some]
      · rw [if_neg same, if_neg same]
  · simp at h

/-- After a valid result was taken, it is found under its digest if the store answers, and under every other
digest the same is found as before. -/
theorem find_keep_of_valid (valid : r.Valid) (kept : s.keep settings hash r ttl = (true, s')) :
    (s'.find hash).1 = (if Command.get ∈ s.store.down then none else some r) ∧
    ∀ other, other ≠ hash → (s'.find other).1 = (s.find other).1 := by
  obtain ⟨down, held⟩ := keep_eq_true kept
  refine ⟨?_, fun other hne => ?_⟩
  · have reads := AnalysisResult.ofText?_toText fun s hs => (valid s hs).keepable
    rw [find_eq, readable_eq, down, held, if_pos rfl, reads]
  · rw [find_eq, find_eq, readable_eq, readable_eq, down, held, if_neg hne]

/-- A text with quotes, one with a line end and a character outside the first plane, an integer that no machine word
holds, and a number far from one. -/
def sampleResult : AnalysisResult where
  analysisId := "an-1"
  codeHash := "h1"
  fromCache := false
  filename := some "a \"b\".py"
  suggestions := [{
    id := "wfc-1", rule := .waterfallChain, message := "two\nlines 😀", severity := 3,
    confidence := .ofDecimal false 1 (-1), score := .ofDecimal true 25 22, filename := none,
    line := 2 ^ 70, column := -1, endLine := 3, endColumn := 4 }]
  rulesApplied := [.waterfallChain]
  functions := [⟨"f", 1, 2, 3, true⟩]
  fault := some ⟨1, 2, ""⟩
  requestId := "r"

theorem valid_sampleResult : sampleResult.Valid := by
  have confidence : (Binary64.ofDecimal false 1 (-1)).Representable :=
    Binary64.representable_ofDecimal (by decide +kernel)
  have score : (Binary64.ofDecimal true 25 22).Representable :=
    Binary64.representable_ofDecimal (by decide +kernel)
  intro s hs
  obtain rfl := List.mem_singleton.1 hs
  exact ⟨⟨by decide, by decide +kernel⟩, confidence, score⟩

theorem find_keep_of_valid_sampleResult :
    let s : Service := { store := { entries := [(keyOf "h0", "stale")] }, tickets := ⟨1⟩ }
    let s' := (s.keep .default "h1" sampleResult none).2
    sampleResult.Valid ∧ s.keep .default "h1" sampleResult none = (true, s') ∧
      (s'.find "h1").1 = some sampleResult ∧ (s'.find "h0").1 = (s.find "h0").1 := by
  intro s s'
  have kept : s.keep .default "h1" sampleResult none = (true, s') := rfl
  obtain ⟨found, others⟩ := find_keep_of_valid valid_sampleResult kept
  exact ⟨valid_sampleResult, kept, found, others "h0" (by decide)⟩

/-- A store may take a result and not answer when it is asked for it: this counts as a miss. -/
theorem find_eq_none_of_unanswered :
    let s : Service := { store := { down := [.get] }, tickets := ⟨1⟩ }
    let s' := (s.keep .default "h1" sampleResult none).2
    sampleResult.Valid ∧ s.keep .default "h1" sampleResult none = (true, s') ∧
      (s'.find "h1").1 = none ∧ (s'.find "h1").1 ≠ some sampleResult := by
  intro s s'
  have kept : s.keep .default "h1" sampleResult none = (true, s') := rfl
  have missed : (s'.find "h1").1 = none := by
    rw [find_eq, readable_eq, (keep_eq_true kept).1]
    exact if_pos (by decide)
  refine ⟨valid_sampleResult, kept, missed, ?_⟩
  rw [missed]
  exact (Option.some_ne_none _).symm

end Service

end AwaitLint
