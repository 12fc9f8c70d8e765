import AwaitLint.Proofs.MergedSuggestions
import AwaitLint.Proofs.ResultContent
import Mathlib.Data.List.Nodup
import Mathlib.Data.List.Pairwise

/-! # Merging again and in another order

Suggestions may be merged in portions: what was merged can be merged again with more, and the outcome is
that of merging everything at once. It does not depend on the order of the suggestions either, unless two
with one key weigh the same. Both rest on the order of a report, in which no two keys have one spot as long
as no suggestion without a file name stands beside one with an empty file name.
-/

namespace AwaitLint

theorem Binary64.eq_swap (x y : Binary64) : x.eq y = y.eq x := by
  unfold Binary64.eq
  cases x.signedRatio? <;> cases y.signedRatio? <;> simp [eq_comm]

theorem Rule.priority_inj {k l : Kind} (h : priority k = priority l) : k = l := by
  cases k <;> cases l <;> first | rfl | cases h

namespace Suggestion

/-! ## Keeping in portions -/

section Portions

variable {xs found found' : List Suggestion}

/-- Where no key is repeated, an insertion changes what has its key, or adds to the end. -/
theorem insert_eq (hkeys : (found.map key).Nodup) (s : Suggestion) : insert s found =
    if s.key ∈ found.map key then found.map fun t => if s.key = t.key ∧ better s t = true then s else t
    else found ++ [s] := by
  induction found with
  | nil => rfl
  | cons t found ih =>
    obtain ⟨ht, hkeys⟩ := List.nodup_cons.1 hkeys
    rw [insert, List.map_cons]
    by_cases hst : s.key = t.key
    · have hrest : (found.map fun u => if s.key = u.key ∧ better s u = true then s else u) = found := by
        refine (List.map_congr_left fun u hu => if_neg ?_).trans (List.map_id found)
        rintro ⟨hsu, -⟩
        exact ht (hst.symm.trans hsu ▸ List.mem_map_of_mem hu)
      rw [if_pos hst, if_pos (List.mem_cons.2 (.inl hst)), List.map_cons, hrest]
      simp only [hst, true_and]
    · rw [if_neg hst, ih hkeys]
      simp only [List.mem_cons, hst, false_or, List.map_cons, false_and, if_false]
      split <;> rfl

theorem insert_perm (h : found.Perm found') (hkeys : (found.map key).Nodup) (s : Suggestion) :
    (insert s found).Perm (insert s found') := by
  have hmap := h.map key
  rw [insert_eq hkeys, insert_eq (hmap.nodup_iff.1 hkeys)]
  simp only [hmap.mem_iff]
  split
  · exact h.map _
  · exact h.append_right _

theorem foldl_insert_perm (ss : List Suggestion) (h : found.Perm found')
    (hkeys : (found.map key).Nodup) : (ss.foldl (fun found s => insert s found) found).Perm
      (ss.foldl (fun found s => insert s found) found') := by
  induction ss generalizing found found' with
  | nil => exact h
  | cons s ss ih => exact ih (insert_perm h hkeys s) (nodup_key_insert hkeys s)

theorem nodup_key_distinct (xs : List Suggestion) : ((distinct xs).map key).Nodup := by
  induction xs using List.reverseRecOn with
  | nil => exact List.nodup_nil
  | append_singleton xs s ih =>
    rw [distinct_concat]
    exact nodup_key_insert ih s

theorem distinct_of_nodup (h : (xs.map key).Nodup) : distinct xs = xs := by
  induction xs using List.reverseRecOn with
  | nil => rfl
  | append_singleton xs s ih =>
    rw [List.map_append, List.nodup_append] at h
    obtain ⟨hxs, -, hnew⟩ := h
    rw [distinct_concat, ih hxs, insert_eq hxs, if_neg]
    exact fun hs => hnew s.key hs s.key (by simp) rfl

/-- What is kept of the first portion, in whatever order, stands for the whole portion. -/
theorem distinct_append_perm (h : found.Perm (distinct xs)) (ys : List Suggestion) :
    (distinct (found ++ ys)).Perm (distinct (xs ++ ys)) := by
  have hkeys : (found.map key).Nodup := (h.map key).nodup_iff.2 (nodup_key_distinct xs)
  have hsplit : ∀ zs, distinct (zs ++ ys) = ys.foldl (fun found s => insert s found) (distinct zs) :=
    fun zs => List.foldl_append
  rw [hsplit, hsplit, distinct_of_nodup hkeys]
  exact foldl_insert_perm ys h hkeys

theorem map_scored_merge (xs : List Suggestion) : (merge xs).map scored = merge xs := by
  refine (List.map_congr_left fun m hm => ?_).trans (List.map_id _)
  obtain ⟨s, -, rfl⟩ := List.mem_map.1 (mem_merge hm)
  rfl

theorem merge_merge_append_perm (xs ys : List Suggestion) :
    (merge (merge xs ++ ys)).Perm (merge (xs ++ ys)) := by
  have hfirst : (merge xs).Perm (distinct (xs.map scored)) := List.mergeSort_perm _ _
  calc
    (merge (merge xs ++ ys)).Perm (distinct ((merge xs ++ ys).map scored)) := List.mergeSort_perm _ _
    _ = distinct (merge xs ++ ys.map scored) := by rw [List.map_append, map_scored_merge]
    List.Perm _ (distinct (xs.map scored ++ ys.map scored)) := distinct_append_perm hfirst _
    _ = distinct ((xs ++ ys).map scored) := by rw [List.map_append]
    List.Perm _ (merge (xs ++ ys)) := (List.mergeSort_perm _ _).symm

end Portions

/-! ## One spot for each key -/

/-- No suggestion without a file name stands beside one with an empty file name. -/
def NamesApart (ss : List Suggestion) : Prop :=
  ∀ s ∈ ss, ∀ t ∈ ss, s.filename = none → t.filename ≠ some ""

instance (ss : List Suggestion) : Decidable (NamesApart ss) :=
  inferInstanceAs (Decidable (∀ s ∈ ss, ∀ t ∈ ss, s.filename = none → t.filename ≠ some ""))

section Spots

variable {xs ys ms ms' : List Suggestion}

theorem NamesApart.mono (h : NamesApart ys) (hsub : ∀ s ∈ xs, ∃ t ∈ ys, s.filename = t.filename) :
    NamesApart xs := by
  intro s hs t ht
  obtain ⟨s', hs', hname⟩ := hsub s hs
  obtain ⟨t', ht', hname'⟩ := hsub t ht
  rw [hname, hname']
  exact h s' hs' t' ht'

theorem NamesApart.key_eq (h : NamesApart ms) {s t : Suggestion} (hs : s ∈ ms) (ht : t ∈ ms)
    (hspot : s.spot = t.spot) : s.key = t.key := by
  simp only [spot, EmbeddingLike.apply_eq_iff_eq, Prod.mk.injEq] at hspot
  obtain ⟨hname, hline, hcolumn, -, hpriority⟩ := hspot
  have hrule := Rule.priority_inj hpriority
  have hfile : s.filename = t.filename := by
    have hst := h s hs t ht
    have hts := h t ht s hs
    cases hsf : s.filename <;> cases htf : t.filename <;> simp_all
  rw [key, key, hfile, hrule, hline, hcolumn]

/-- The order of a report determines a report. -/
theorem eq_of_perm_of_sorted (hperm : ms.Perm ms') (hkeys : (ms.map key).Nodup) (hnames : NamesApart ms)
    (hsorted : ms.Pairwise fun s t => s.spot ≤ t.spot)
    (hsorted' : ms'.Pairwise fun s t => s.spot ≤ t.spot) : ms = ms' := by
  refine hperm.eq_of_pairwise (fun s t hs ht hst hts => ?_) hsorted hsorted'
  have ht := hperm.mem_iff.2 ht
  exact List.inj_on_of_nodup_map hkeys hs ht (hnames.key_eq hs ht (le_antisymm hst hts))

theorem weighed_merge (h : ∀ s ∈ xs, s.Weighed) : ∀ m ∈ merge xs, m.Weighed := by
  intro m hm
  obtain ⟨s, hs, rfl⟩ := List.mem_map.1 (mem_merge hm)
  exact ⟨(h s hs).severity, (h s hs).confidence⟩

theorem merge_eq_of_perm (hxs : ∀ s ∈ xs, s.Weighed) (hys : ∀ s ∈ ys, s.Weighed) (hnames : NamesApart xs)
    (hperm : (merge xs).Perm (merge ys)) : merge xs = merge ys := by
  refine eq_of_perm_of_sorted hperm ?_ (hnames.mono fun m hm => ?_) (sorted_merge hxs) (sorted_merge hys)
  · exact (map_key_merge_perm xs).nodup_iff.2 (nodup_key_distinct xs)
  · obtain ⟨s, hs, rfl⟩ := List.mem_map.1 (mem_merge hm)
    exact ⟨s, hs, rfl⟩

end Spots

/-- A suggestion within its bounds has a weight. -/
theorem Admissible.weighed {s : Suggestion} (h : s.Admissible) : s.Weighed := by
  refine ⟨h.severity, fun hnan => ?_⟩
  have most := h.confidence.1
  rw [hnan] at most
  cases most

/-- All suggestions that are read have a weight. -/
theorem weighed_of_decoder {e : Record.Expects} {j : Json} {s : Suggestion} (h : decoder e j = .ok s) :
    s.Weighed := (admissible_of_decoder h).weighed

/-! ## Any order -/

/-- The suggestions are about one thing and have one severity and one confidence. -/
structure Tied (s t : Suggestion) : Prop where
  key : s.key = t.key
  severity : s.severity = t.severity
  confidence : s.confidence.eq t.confidence = true

theorem Tied.symm {s t : Suggestion} (h : Tied s t) : Tied t s :=
  ⟨h.key.symm, h.severity.symm, Binary64.eq_swap _ _ ▸ h.confidence⟩

instance (s t : Suggestion) : Decidable (Tied s t) :=
  decidable_of_iff (s.key = t.key ∧ s.severity = t.severity ∧ s.confidence.eq t.confidence = true)
    ⟨fun h => ⟨h.1, h.2.1, h.2.2⟩, fun h => ⟨h.key, h.severity, h.confidence⟩⟩

/-- No two of the suggestions are tied. -/
def Untied (ss : List Suggestion) : Prop := ss.Pairwise fun s t => ¬ Tied s t

instance (ss : List Suggestion) : Decidable (Untied ss) :=
  inferInstanceAs (Decidable (ss.Pairwise fun s t => ¬ Tied s t))

section Orders

variable {xs ys : List Suggestion} {s t : Suggestion}

theorem Untied.of_perm (h : Untied xs) (hperm : ys.Perm xs) : Untied ys :=
  (hperm.pairwise_iff fun hst hts => hst hts.symm).2 h

theorem Untied.eq_of_weight_eq (h : Untied xs) (hxs : ∀ s ∈ xs, s.confidence ≠ .nan) (hs : s ∈ xs)
    (ht : t ∈ xs) (hkey : s.key = t.key) (hweight : s.weight = t.weight) : s = t := by
  have hsymm : Std.Symm fun s t => ¬ Tied s t := ⟨fun _ _ hst hts => hst hts.symm⟩
  rw [weight, weight, EmbeddingLike.apply_eq_iff_eq, Prod.mk.injEq] at hweight
  have htied : Tied s t :=
    ⟨hkey, hweight.1, (Binary64.eq_iff (hxs s hs) (hxs t ht)).2 hweight.2⟩
  by_contra hne
  exact h.forall hs ht hne htied

/-- Without ties, what is kept is what weighs the most for its key. -/
theorem Untied.mem_distinct_iff (h : Untied xs) (hxs : ∀ s ∈ xs, s.confidence ≠ .nan) :
    s ∈ distinct xs ↔ s ∈ xs ∧ ∀ t ∈ xs, t.key = s.key → t.weight ≤ s.weight := by
  have hkeeps := keeps_distinct hxs
  constructor
  · intro hs
    exact ⟨(hkeeps.best s hs).mem, fun t ht => (hkeeps.best s hs).weight_le ht⟩
  · rintro ⟨hs, hmost⟩
    obtain ⟨t, ht, hkey⟩ := List.mem_map.1 ((hkeeps.mem_keys s.key).2 (List.mem_map_of_mem hs))
    have hbest := hkeeps.best t ht
    have hweight : t.weight = s.weight :=
      le_antisymm (hmost t hbest.mem hkey) (hbest.weight_le hs hkey.symm)
    exact h.eq_of_weight_eq hxs hbest.mem hs hkey hweight ▸ ht

theorem Untied.distinct_perm (h : Untied xs) (hxs : ∀ s ∈ xs, s.confidence ≠ .nan)
    (hperm : ys.Perm xs) : (distinct ys).Perm (distinct xs) := by
  have hys : ∀ s ∈ ys, s.confidence ≠ .nan := fun s hs => hxs s (hperm.mem_iff.1 hs)
  have hnodup : ∀ zs, (distinct zs).Nodup := fun zs => (nodup_key_distinct zs).of_map key
  rw [List.perm_ext_iff_of_nodup (hnodup ys) (hnodup xs)]
  intro s
  rw [(h.of_perm hperm).mem_distinct_iff hys, h.mem_distinct_iff hxs]
  simp only [hperm.mem_iff]

theorem Untied.merge_perm (h : Untied xs) (hxs : ∀ s ∈ xs, s.confidence ≠ .nan) (hperm : ys.Perm xs) :
    (merge ys).Perm (merge xs) :=
  (Suggestion.merge_perm ys).trans (((h.distinct_perm hxs hperm).map scored).trans (Suggestion.merge_perm xs).symm)

end Orders

/-- Merging in portions is merging at once, merging twice is merging once, and without ties the order of
the suggestions does not matter. -/
theorem merge_absorbs_merged {xs ys : List Suggestion} (weighed : ∀ s ∈ xs ++ ys, s.Weighed)
    (names : NamesApart (xs ++ ys)) :
    merge (merge xs ++ ys) = merge (xs ++ ys) ∧ merge (merge xs) = merge xs ∧
      (ys.Perm xs → Untied xs → merge ys = merge xs) := by
  have hxs : ∀ s ∈ xs, s.Weighed := fun s hs => weighed s (List.mem_append_left _ hs)
  have hys : ∀ s ∈ ys, s.Weighed := fun s hs => weighed s (List.mem_append_right _ hs)
  have hnames : NamesApart xs := names.mono fun s hs => ⟨s, List.mem_append_left _ hs, rfl⟩
  refine ⟨?_, ?_, fun hperm hties => ?_⟩
  · refine (merge_eq_of_perm weighed ?_ names (merge_merge_append_perm xs ys).symm).symm
    exact List.forall_mem_append.2 ⟨weighed_merge hxs, hys⟩
  · have hagain := merge_merge_append_perm xs []
    simp only [List.append_nil] at hagain
    exact (merge_eq_of_perm hxs (weighed_merge hxs) hnames hagain.symm).symm
  · have hperm' := hties.merge_perm (fun s hs => (hxs s hs).confidence) hperm
    exact (merge_eq_of_perm hxs hys hnames hperm'.symm).symm

/-- Two files, two rules on one spot, and a key that comes twice with different weights. -/
def untiedSample : List Suggestion := mergeSample.take 4

theorem merge_absorbs_merged_untiedSample :
    merge (merge untiedSample ++ untiedSample.reverse) = merge (untiedSample ++ untiedSample.reverse) ∧
      merge (merge untiedSample) = merge untiedSample ∧
      merge untiedSample.reverse = merge untiedSample := by
  have weighed : ∀ s ∈ untiedSample ++ untiedSample.reverse,
      (1 ≤ s.severity ∧ s.severity ≤ 5) ∧ s.confidence ≠ .nan := by
    decide +kernel
  obtain ⟨portions, twice, order⟩ := merge_absorbs_merged (fun s hs => ⟨(weighed s hs).1, (weighed s hs).2⟩)
    (show NamesApart (untiedSample ++ untiedSample.reverse) by decide +kernel)
  exact ⟨portions, twice, order (List.reverse_perm _) (by decide +kernel)⟩

end Suggestion

end AwaitLint
