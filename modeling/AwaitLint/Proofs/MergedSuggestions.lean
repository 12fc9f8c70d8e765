import AwaitLint.Suggestion
import Mathlib.Algebra.Order.Field.Basic
import Mathlib.Algebra.Order.Field.Rat
import Mathlib.Data.List.Induction
import Mathlib.Data.Prod.Lex
import Mathlib.Data.String.Basic

/-! # Which suggestions a merge keeps

Suggestions with one key are about the same thing, and a merge keeps one of them: the first of those with
the greatest severity and, among these, the greatest confidence. What is kept is listed in the order of a
report.
-/

namespace AwaitLint

namespace Binary64

/-! ## Numbers in their order -/

/-- The place of a number on the line of rational numbers. A NaN has none and is put at zero. -/
def value (x : Binary64) : ℚ := match x.signedRatio? with
  | some (a, b) => a / b
  | none => 0

theorem exists_signedRatio? {x : Binary64} (h : x ≠ nan) :
    ∃ (a : Int) (b : Nat), x.signedRatio? = some (a, b) ∧ 0 < b := by
  cases x with
  | finite s m e => exact ⟨_, _, rfl, ratio_pos m e⟩
  | infinite s => exact ⟨_, _, rfl, Nat.one_pos⟩
  | nan => exact absurd rfl h

theorem lt_iff {x y : Binary64} (hx : x ≠ nan) (hy : y ≠ nan) : x.lt y = true ↔ x.value < y.value := by
  obtain ⟨a, b, hab, hb⟩ := exists_signedRatio? hx
  obtain ⟨c, d, hcd, hd⟩ := exists_signedRatio? hy
  have hb' : (0 : ℚ) < b := Nat.cast_pos.2 hb
  have hd' : (0 : ℚ) < d := Nat.cast_pos.2 hd
  simp only [lt, value, hab, hcd, decide_eq_true_eq]
  rw [div_lt_div_iff₀ hb' hd']
  exact_mod_cast Iff.rfl

theorem eq_iff {x y : Binary64} (hx : x ≠ nan) (hy : y ≠ nan) : x.eq y = true ↔ x.value = y.value := by
  obtain ⟨a, b, hab, hb⟩ := exists_signedRatio? hx
  obtain ⟨c, d, hcd, hd⟩ := exists_signedRatio? hy
  have hb' : (b : ℚ) ≠ 0 := Nat.cast_ne_zero.2 hb.ne'
  have hd' : (d : ℚ) ≠ 0 := Nat.cast_ne_zero.2 hd.ne'
  simp only [eq, value, hab, hcd, decide_eq_true_eq]
  rw [div_eq_div_iff hb' hd']
  exact_mod_cast Iff.rfl

theorem ofRatio_ne_nan (s : Bool) (num den : Nat) : ofRatio s num den ≠ nan := by
  unfold ofRatio
  dsimp only
  split
  · simp
  · split <;> split <;> split <;> simp

theorem roundPlaces_ne_nan {x : Binary64} (h : x ≠ nan) (places : Nat) : x.roundPlaces places ≠ nan := by
  cases x with
  | finite s m e => exact ofRatio_ne_nan _ _ _
  | infinite s => exact h
  | nan => exact absurd rfl h

end Binary64

namespace Suggestion

/-- A fifth of a severity from 1 to 5 is a positive number. -/
theorem fifth_of_severity {n : Int} (h : 1 ≤ n) (h' : n ≤ 5) :
    ∃ m e, m ≠ 0 ∧ (Binary64.ofInt n).divNat 5 = .finite false m e := by
  obtain rfl | rfl | rfl | rfl | rfl : n = 1 ∨ n = 2 ∨ n = 3 ∨ n = 4 ∨ n = 5 := by omega
  · exact ⟨7205759403792794, -55, by decide, by decide +kernel⟩
  · exact ⟨7205759403792794, -54, by decide, by decide +kernel⟩
  · exact ⟨5404319552844595, -53, by decide, by decide +kernel⟩
  · exact ⟨7205759403792794, -53, by decide, by decide +kernel⟩
  · exact ⟨4503599627370496, -52, by decide, by decide +kernel⟩

/-- What a suggestion is made with: a severity from 1 to 5, and a confidence that is a number. -/
structure Weighed (s : Suggestion) : Prop where
  severity : 1 ≤ s.severity ∧ s.severity ≤ 5
  confidence : s.confidence ≠ .nan

/-- The score of such a suggestion is a number. -/
theorem Weighed.score_ne_nan {s : Suggestion} (h : s.Weighed) : s.scored.score ≠ .nan := by
  obtain ⟨m, e, hm, hfifth⟩ := fifth_of_severity h.severity.1 h.severity.2
  change scoreOf s.severity s.confidence ≠ .nan
  rw [scoreOf, hfifth]
  apply Binary64.roundPlaces_ne_nan
  cases hc : s.confidence with
  | finite t k f => exact Binary64.ofRatio_ne_nan _ _ _
  | infinite t => simp [Binary64.mul, hm]
  | nan => exact absurd hc h.confidence

/-! ## Weight and place of a suggestion -/

/-- Severity first, then confidence. -/
def weight (s : Suggestion) : ℤ ×ₗ ℚ := toLex (s.severity, s.confidence.value)

/-- Where a suggestion stands in a report: by file, line and column; on one spot the higher score comes
first, then the rule with the higher priority. -/
def spot (s : Suggestion) : String ×ₗ ℤ ×ₗ ℤ ×ₗ ℚᵒᵈ ×ₗ ℕᵒᵈ :=
  toLex (s.filename.getD "", toLex (s.line, toLex (s.column,
    toLex (.toDual s.score.value, .toDual (Rule.priority s.rule)))))

theorem better_iff {s t : Suggestion} (hs : s.confidence ≠ .nan) (ht : t.confidence ≠ .nan) :
    better s t = true ↔ t.weight < s.weight := by
  rw [better, weight, weight, Prod.Lex.toLex_lt_toLex]
  by_cases h : s.severity = t.severity
  · simp [h, Binary64.lt_iff ht hs]
  · simp [h, Ne.symm h]

theorem le_iff {s t : Suggestion} (hs : s.score ≠ .nan) (ht : t.score ≠ .nan) :
    le s t = true ↔ s.spot ≤ t.spot := by
  have heq := Binary64.eq_iff hs ht
  have hlt := Binary64.lt_iff ht hs
  simp only [le, spot, Prod.Lex.toLex_le_toLex, OrderDual.toDual_lt_toDual, OrderDual.toDual_le_toDual,
    OrderDual.toDual_inj]
  by_cases hf : s.filename.getD "" = t.filename.getD ""
  · by_cases hl : s.line = t.line
    · by_cases hc : s.column = t.column
      · by_cases hv : s.score.value = t.score.value
        · simp [hf, hl, hc, heq.2 hv, hv]
        · simp [hf, hl, hc, mt heq.1 hv, hv, hlt]
      · simp [hf, hl, hc]
    · simp [hf, hl]
  · simp [hf]

/-! ## The best of each key -/

section Best

variable {ss found : List Suggestion} {s t : Suggestion}

/-- `s` is the first of the suggestions with its key in a list that have the greatest weight of these. -/
def IsBest (ss : List Suggestion) (s : Suggestion) : Prop :=
  ∃ before after, ss = before ++ s :: after ∧
    (∀ t ∈ before, t.key = s.key → t.weight < s.weight) ∧
    ∀ t ∈ after, t.key = s.key → t.weight ≤ s.weight

theorem IsBest.mem (h : IsBest ss s) : s ∈ ss := by
  obtain ⟨before, after, rfl, -, -⟩ := h
  exact List.mem_append_right _ List.mem_cons_self

theorem IsBest.weight_le (h : IsBest ss s) (ht : t ∈ ss) (hkey : t.key = s.key) : t.weight ≤ s.weight := by
  obtain ⟨before, after, rfl, hbefore, hafter⟩ := h
  rcases List.mem_append.1 ht with ht | ht
  · exact (hbefore t ht hkey).le
  · rcases List.mem_cons.1 ht with rfl | ht
    · exact le_refl _
    · exact hafter t ht hkey

/-- The best stays the best when one comes that does not outweigh it. -/
theorem IsBest.concat (h : IsBest ss s) (ht : t.key = s.key → t.weight ≤ s.weight) :
    IsBest (ss ++ [t]) s := by
  obtain ⟨before, after, rfl, hbefore, hafter⟩ := h
  refine ⟨before, after ++ [t], by simp, hbefore, fun u hu => ?_⟩
  rcases List.mem_append.1 hu with hu | hu
  · exact hafter u hu
  · exact List.mem_singleton.1 hu ▸ ht

theorem isBest_last (h : ∀ t ∈ ss, t.key = s.key → t.weight < s.weight) : IsBest (ss ++ [s]) s :=
  ⟨ss, [], rfl, h, by simp⟩

theorem key_better (h : s.key = t.key) : (if better s t then s else t).key = t.key := by
  split
  · exact h
  · rfl

theorem map_key_insert (s : Suggestion) (found : List Suggestion) : (insert s found).map key =
    if s.key ∈ found.map key then found.map key else found.map key ++ [s.key] := by
  induction found with
  | nil => rfl
  | cons t found ih =>
    rw [insert]
    by_cases hst : s.key = t.key
    · simp [hst, key_better hst]
    · rw [if_neg hst, List.map_cons, ih]
      simp only [List.map_cons, List.mem_cons, hst, false_or]
      split <;> rfl

theorem nodup_key_insert (h : (found.map key).Nodup) (s : Suggestion) :
    ((insert s found).map key).Nodup := by
  rw [map_key_insert]
  split
  · exact h
  · next hnew => exact List.nodup_append.2 ⟨h, by simp, by simpa using hnew⟩

/-- What stands in a list after an insertion: what stood there and is not outdone, or the new suggestion if
it outdoes what had its key. -/
theorem mem_insert_cases (hkeys : (found.map key).Nodup) (h : t ∈ insert s found) :
    (t ∈ found ∧ (s.key = t.key → better s t = false)) ∨
    (t = s ∧ ∀ u ∈ found, u.key = s.key → better s u = true) := by
  induction found with
  | nil => exact .inr ⟨List.mem_singleton.1 h, by simp⟩
  | cons u found ih =>
    obtain ⟨hu, hkeys⟩ := List.nodup_cons.1 hkeys
    have hother : ∀ v ∈ found, v.key ≠ u.key := fun v hv e => hu (e ▸ List.mem_map_of_mem hv)
    rw [insert] at h
    by_cases hsu : s.key = u.key
    · rw [if_pos hsu] at h
      rcases List.mem_cons.1 h with rfl | ht
      · cases hb : better s u with
        | true =>
          refine .inr ⟨by simp, List.forall_mem_cons.2 ⟨fun _ => hb, fun v hv e => ?_⟩⟩
          exact absurd (e.trans hsu) (hother v hv)
        | false => exact .inl ⟨by simp, by simp [hb]⟩
      · exact .inl ⟨List.mem_cons_of_mem _ ht, fun e => absurd (e.symm.trans hsu) (hother t ht)⟩
    · rw [if_neg hsu] at h
      rcases List.mem_cons.1 h with rfl | ht
      · exact .inl ⟨List.mem_cons_self, fun e => absurd e hsu⟩
      · rcases ih hkeys ht with ⟨ht, hb⟩ | ⟨rfl, hb⟩
        · exact .inl ⟨List.mem_cons_of_mem _ ht, hb⟩
        · exact .inr ⟨rfl, List.forall_mem_cons.2 ⟨fun e => absurd e.symm hsu, hb⟩⟩

/-- A list holds one suggestion for each key of another list, the best of it. -/
structure Keeps (ss found : List Suggestion) : Prop where
  keys_nodup : (found.map key).Nodup
  mem_keys : ∀ k, k ∈ found.map key ↔ k ∈ ss.map key
  best : ∀ s ∈ found, IsBest ss s

theorem Keeps.insert (h : Keeps ss found) (hs : s.confidence ≠ .nan)
    (hss : ∀ t ∈ ss, t.confidence ≠ .nan) : Keeps (ss ++ [s]) (insert s found) := by
  have hbetter : ∀ t ∈ found, (better s t = true ↔ t.weight < s.weight) := fun t ht =>
    better_iff hs (hss t (h.best t ht).mem)
  refine ⟨nodup_key_insert h.keys_nodup s, fun k => ?_, fun t ht => ?_⟩
  · rw [map_key_insert, List.map_append, List.mem_append, ← h.mem_keys]
    split
    · next hknown =>
      constructor
      · exact .inl
      · rintro (hk | hk)
        · exact hk
        · exact List.mem_singleton.1 hk ▸ hknown
    · exact List.mem_append
  · rcases mem_insert_cases h.keys_nodup ht with ⟨ht, hnot⟩ | ⟨rfl, hall⟩
    · refine (h.best t ht).concat fun e => not_lt.1 fun hlt => ?_
      simpa [hnot e] using (hbetter t ht).2 hlt
    · -- what has the key of the new one weighs no more than what was kept for it
      refine isBest_last fun u hu e => ?_
      obtain ⟨v, hv, hkey⟩ := List.mem_map.1 ((h.mem_keys u.key).2 (List.mem_map_of_mem hu))
      calc
        u.weight ≤ v.weight := (h.best v hv).weight_le hu hkey.symm
        _ < t.weight := (hbetter v hv).1 (hall v hv (hkey.trans e))

theorem distinct_concat (ss : List Suggestion) (s : Suggestion) :
    distinct (ss ++ [s]) = insert s (distinct ss) := by
  simp [distinct]

theorem keeps_distinct (h : ∀ s ∈ ss, s.confidence ≠ .nan) : Keeps ss (distinct ss) := by
  induction ss using List.reverseRecOn with
  | nil => exact ⟨List.nodup_nil, fun _ => Iff.rfl, by simp [distinct]⟩
  | append_singleton ss s ih =>
    have hss : ∀ t ∈ ss, t.confidence ≠ .nan := fun t ht => h t (List.mem_append_left _ ht)
    rw [distinct_concat]
    exact (ih hss).insert (h s (by simp)) hss

end Best

/-! ## What a merge returns -/

theorem map_scored_insert (s : Suggestion) (found : List Suggestion) :
    (insert s found).map scored = insert s.scored (found.map scored) := by
  induction found with
  | nil => rfl
  | cons t found ih =>
    rw [insert, List.map_cons, insert, ← ih]
    change _ = if s.key = t.key then (if better s t then s.scored else t.scored) :: _ else _
    split
    · rw [List.map_cons, apply_ite scored]
    · rfl

theorem map_scored_distinct (ss : List Suggestion) :
    (distinct ss).map scored = distinct (ss.map scored) := by
  induction ss using List.reverseRecOn with
  | nil => rfl
  | append_singleton ss s ih =>
    rw [distinct_concat, map_scored_insert, ih, List.map_append, ← distinct_concat]
    rfl

theorem map_key_scored (ss : List Suggestion) : (ss.map scored).map key = ss.map key := by
  rw [List.map_map]
  rfl

theorem sorted_mergeSort {ss : List Suggestion} (h : ∀ s ∈ ss, s.score ≠ .nan) :
    (ss.mergeSort le).Pairwise fun s t => s.spot ≤ t.spot := by
  -- `le` is a total order on numbers only, so the sort is taken to one by `spot` first
  have hle : ∀ s ∈ ss, ∀ t ∈ ss, le s t = decide (s.spot ≤ t.spot) := fun s hs t ht =>
    Bool.eq_iff_iff.2 ((le_iff (h s hs) (h t ht)).trans decide_eq_true_iff.symm)
  have hsort : ss.mergeSort le = ss.mergeSort fun s t => decide (s.spot ≤ t.spot) := by
    simpa using List.map_mergeSort (f := fun s => s) hle
  rw [hsort]
  refine (List.pairwise_mergeSort ?_ ?_ ss).imp of_decide_eq_true
  · intro s t u hst htu
    exact decide_eq_true (le_trans (of_decide_eq_true hst) (of_decide_eq_true htu))
  · intro s t
    simpa using le_total s.spot t.spot

theorem merge_perm (ss : List Suggestion) : (merge ss).Perm ((distinct ss).map scored) := by
  rw [merge, ← map_scored_distinct]
  exact List.mergeSort_perm _ _

theorem map_key_merge_perm (ss : List Suggestion) :
    ((merge ss).map key).Perm ((distinct ss).map key) := by
  rw [← map_key_scored (distinct ss)]
  exact (merge_perm ss).map key

theorem sorted_merge {ss : List Suggestion} (h : ∀ s ∈ ss, s.Weighed) :
    (merge ss).Pairwise fun s t => s.spot ≤ t.spot := by
  have hkeeps : Keeps ss (distinct ss) := keeps_distinct fun s hs => (h s hs).confidence
  rw [merge, ← map_scored_distinct]
  refine sorted_mergeSort fun m hm => ?_
  obtain ⟨s, hs, rfl⟩ := List.mem_map.1 hm
  exact (h s (hkeeps.best s hs).mem).score_ne_nan

/-- What is left of suggestions when they are merged. -/
structure IsMerged (ss merged : List Suggestion) : Prop where
  /-- No key is left twice. -/
  keys_nodup : (merged.map key).Nodup
  /-- The keys that are left are those of the suggestions. -/
  mem_keys : ∀ k, k ∈ merged.map key ↔ k ∈ ss.map key
  /-- What is left is the best of its key with a new score. -/
  best : ∀ m ∈ merged, ∃ s, IsBest ss s ∧ m = s.scored
  /-- Spots come in their order. -/
  sorted : merged.Pairwise fun s t => s.spot ≤ t.spot

/-- A merge leaves one suggestion for each key, the first of those with the greatest severity and
confidence, scored anew, in the order of a report. -/
theorem merge_isMerged {ss : List Suggestion} (h : ∀ s ∈ ss, s.Weighed) : IsMerged ss (merge ss) := by
  have hkeeps : Keeps ss (distinct ss) := keeps_distinct fun s hs => (h s hs).confidence
  have hkeys := map_key_merge_perm ss
  refine ⟨hkeys.nodup_iff.2 hkeeps.keys_nodup, fun k => ?_, fun m hm => ?_, sorted_merge h⟩
  · rw [hkeys.mem_iff, hkeeps.mem_keys]
  · obtain ⟨s, hs, rfl⟩ := List.mem_map.1 ((merge_perm ss).mem_iff.1 hm)
    exact ⟨s, hkeeps.best s hs, rfl⟩

/-- Two files, two rules on one spot, and a key that comes three times. -/
def mergeSample : List Suggestion :=
  let chain : Diagnostic := ⟨.waterfallChain, 3, 4, 3, 20⟩
  let runs : Diagnostic := ⟨.preferParallelCombinator, 3, 4, 5, 20⟩
  [ofDiagnostic "elsewhere" (some "b.py") chain, ofDiagnostic "runs" (some "a.py") runs,
    { ofDiagnostic "weak" (some "a.py") chain with severity := 2, confidence := .ofNat 1 },
    ofDiagnostic "strong" (some "a.py") chain, ofDiagnostic "late" (some "a.py") chain]

theorem merge_isMerged_mergeSample : IsMerged mergeSample (merge mergeSample) ∧
    (merge mergeSample).map Suggestion.id = ["strong", "runs", "elsewhere"] := by
  have weighed : ∀ s ∈ mergeSample, (1 ≤ s.severity ∧ s.severity ≤ 5) ∧ s.confidence ≠ .nan := by
    decide +kernel
  refine ⟨merge_isMerged fun s hs => ⟨(weighed s hs).1, (weighed s hs).2⟩, ?_⟩
  -- sorting does not evaluate: the three that are left are compared one by one
  obtain ⟨x, y, z, hd, hxy, hyz, hid⟩ : ∃ x y z, distinct (mergeSample.map scored) = [x, y, z] ∧
      le x y = false ∧ le y z = false ∧ [z, y, x].map Suggestion.id = ["strong", "runs", "elsewhere"] :=
    ⟨_, _, _, rfl, by decide +kernel, by decide +kernel, by decide +kernel⟩
  rw [merge, hd, ← hid]
  simp [List.mergeSort, List.MergeSort.Internal.splitInTwo, hxy, hyz]

end Suggestion

end AwaitLint
