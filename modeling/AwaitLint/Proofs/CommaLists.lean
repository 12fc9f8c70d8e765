import AwaitLint.Eligibility
import Mathlib.Data.List.DropRight

/-! # Lists written with commas

An entry of a list stands between two commas, and the blanks around it do not belong to it.
-/

namespace AwaitLint

namespace Text

variable {cs entry : List Char}

theorem splitChar_eq_splitOn (sep : Char) (cs : List Char) : splitChar sep cs = cs.splitOn sep := by
  induction cs with
  | nil => rfl
  | cons c cs ih =>
    rw [splitChar, ih, List.splitOn_cons_eq_if_modifyHead]
    simp only [beq_iff_eq]
    split
    · rfl
    · cases h : cs.splitOn sep with
      | nil => exact absurd h (List.splitOn_ne_nil sep cs)
      | cons w ws => rfl

/-! ## Blanks at the ends -/

/-- The text neither starts nor ends with a blank, and it is not empty. -/
structure Bare (entry : List Char) : Prop where
  nonempty : entry ≠ []
  first : ∀ c ∈ entry.head?, isBlank c = false
  last : ∀ c ∈ entry.getLast?, isBlank c = false

theorem stripList_eq_rdropWhile (cs : List Char) : stripList cs = (cs.dropWhile isBlank).rdropWhile isBlank := rfl

theorem stripList_append {lead trail : List Char} (blank : ∀ c ∈ lead ++ trail, isBlank c = true) (bare : Bare entry) :
    stripList (lead ++ entry ++ trail) = entry := by
  obtain ⟨blankLead, blankTrail⟩ := List.forall_mem_append.1 blank
  have hlead : (lead ++ entry ++ trail).dropWhile isBlank = entry ++ trail := by
    rw [List.append_assoc, List.dropWhile_append_of_pos blankLead]
    obtain ⟨c, cs, rfl⟩ := List.exists_cons_of_ne_nil bare.nonempty
    simp [bare.first c rfl]
  have hentry : entry.reverse.dropWhile isBlank = entry.reverse := by
    obtain ⟨cs, c, rfl⟩ := List.eq_nil_or_concat entry |>.resolve_left bare.nonempty
    simp [bare.last c (by simp)]
  rw [stripList, hlead, List.reverse_append, List.dropWhile_append_of_pos (by simpa using blankTrail), hentry,
    List.reverse_reverse]

/-- What is left after the blanks at both ends have been taken off. -/
theorem exists_lead_trail (cs : List Char) :
    ∃ lead trail, cs = lead ++ stripList cs ++ trail ∧ ∀ c ∈ lead ++ trail, isBlank c = true := by
  refine ⟨cs.takeWhile isBlank, (cs.dropWhile isBlank).rtakeWhile isBlank, ?_, ?_⟩
  · rw [stripList_eq_rdropWhile, List.append_assoc, List.rdropWhile_append_rtakeWhile,
      List.takeWhile_append_dropWhile]
  · intro c hc
    rcases List.mem_append.1 hc with hc | hc
    · exact List.mem_takeWhile_imp hc
    · exact List.mem_rtakeWhile_imp hc

theorem bare_stripList (h : stripList cs ≠ []) : Bare (stripList cs) where
  nonempty := h
  first := by
    intro c hc
    have hfirst : (cs.dropWhile isBlank).head? = some c := by
      obtain ⟨more, hmore⟩ := List.rdropWhile_prefix isBlank (l := cs.dropWhile isBlank)
      rw [← hmore, ← stripList_eq_rdropWhile, List.head?_append_of_ne_nil _ h]
      exact hc
    have hstop := List.head?_dropWhile_not isBlank cs
    rw [hfirst] at hstop
    simpa using hstop
  last := by
    intro c hc
    have hlast := List.rdropWhile_last_not isBlank (cs.dropWhile isBlank) h
    rw [List.getLast?_eq_some_getLast h, Option.mem_some_iff] at hc
    simpa [stripList_eq_rdropWhile, ← hc] using hlast

end Text

/-! ## Entries -/

/-- What stands between two commas of a list, without the blanks around it; nothing is no entry. -/
def IsEntry (list : String) (entry : List Char) : Prop :=
  Text.Bare entry ∧ ∃ lead trail, lead ++ entry ++ trail ∈ list.toList.splitOn ',' ∧
    ∀ c ∈ lead ++ trail, Text.isBlank c = true

theorem mem_splitCsv_iff {list entry : String} : entry ∈ splitCsv list ↔ IsEntry list entry.toList := by
  rw [splitCsv, List.mem_filter, List.mem_map, Text.splitChar_eq_splitOn]
  constructor
  · rintro ⟨⟨field, hfield, rfl⟩, hne⟩
    obtain ⟨lead, trail, hparts, blank⟩ := Text.exists_lead_trail field
    rw [String.toList_ofList]
    exact ⟨Text.bare_stripList (by simpa using hne), lead, trail, hparts ▸ hfield, blank⟩
  · rintro ⟨bare, lead, trail, hfield, blank⟩
    refine ⟨⟨_, hfield, ?_⟩, ?_⟩
    · rw [Text.stripList_append blank bare, String.ofList_toList]
    · have := bare.nonempty
      simpa using this

end AwaitLint
