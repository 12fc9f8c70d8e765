import AwaitLint.Proofs.CommaLists
import AwaitLint.Proofs.KeySufficiency
import AwaitLint.Proofs.WalkedFiles

/-! # Paths and their texts

The paths that are checked are read back from their texts. So two of them with one text are one path.
-/

namespace AwaitLint

namespace Path

/-- A path as the text of one is split. -/
structure Proper (p : Path) : Prop where
  root : p.root = "" ∨ p.root = "/" ∨ p.root = "//"
  parts : ∀ s ∈ p.parts, s ≠ "" ∧ s ≠ "." ∧ '/' ∉ s.toList

theorem proper_ofText (text : String) : (ofText text).Proper where
  root := by
    simp only [ofText, rootOf]
    split <;> simp
  parts := by
    intro s hs
    obtain ⟨hmem, hs⟩ := List.mem_filter.1 hs
    obtain ⟨part, hpart, rfl⟩ := List.mem_map.1 hmem
    obtain ⟨nonempty, noDot⟩ := of_decide_eq_true hs
    refine ⟨nonempty, noDot, fun h => ?_⟩
    rw [String.toList_ofList] at h
    exact (Text.mem_of_mem_splitChar hpart h).1 rfl

theorem Proper.below {p : Path} (h : p.Proper) {steps : List String}
    (named : ∀ s ∈ steps, FileTree.isName s = true) : (p.below steps).Proper where
  root := h.root
  parts := by
    intro s hs
    rcases List.mem_append.1 hs with hs | hs
    · exact h.parts s hs
    · have := named s hs
      simp only [FileTree.isName, Bool.and_eq_true, Bool.not_eq_true', List.contains_eq_mem,
        decide_eq_false_iff_not, List.mem_cons, not_or] at this
      exact ⟨this.1.1, this.1.2.1, this.2⟩

/-- The parts are found again between the slashes, behind any root. -/
theorem Proper.parts_of_intercalate {p : Path} (h : p.Proper) :
    ((Text.splitChar '/' (p.root ++ String.intercalate "/" p.parts).toList).map String.ofList).filter
      (fun s => decide (s ≠ "" ∧ s ≠ ".")) = p.parts := by
  have between : ((Text.splitChar '/' (String.intercalate "/" p.parts).toList).map String.ofList).filter
      (fun s => decide (s ≠ "" ∧ s ≠ ".")) = p.parts := by
    by_cases none : p.parts = []
    · rw [none]
      decide
    · rw [String.toList_intercalate, Text.splitChar_eq_splitOn, show "/".toList = ['/'] from rfl,
        List.splitOn_intercalate '/' ?_ (by simpa using none), List.map_map]
      · simp only [Function.comp_def, String.ofList_toList, List.map_id']
        exact List.filter_eq_self.2 fun s hs => decide_eq_true ⟨(h.parts s hs).1, (h.parts s hs).2.1⟩
      · intro cs hcs
        obtain ⟨s, hs, rfl⟩ := List.mem_map.1 hcs
        exact (h.parts s hs).2.2
  rw [String.toList_append]
  rcases h.root with root | root | root
  · simpa [root] using between
  · simpa [root, Text.splitChar] using between
  · simpa [root, Text.splitChar] using between

theorem Proper.rootOf_text {p : Path} (h : p.Proper) :
    rootOf (p.root ++ String.intercalate "/" p.parts).toList = p.root := by
  have behind : (String.intercalate "/" p.parts).toList.takeWhile (· == '/') = [] := by
    rw [String.toList_intercalate]
    cases hp : p.parts with
    | nil => rfl
    | cons s rest =>
      obtain ⟨nonempty, -, noSlash⟩ := h.parts s (hp ▸ List.mem_cons_self)
      have hs : s.toList ≠ [] := by simpa using nonempty
      obtain ⟨c, cs, hcs⟩ := List.exists_cons_of_ne_nil hs
      have : c ≠ '/' := by
        rintro rfl
        exact noSlash (hcs ▸ List.mem_cons_self)
      rcases rest with _ | ⟨r, rest⟩ <;> simp [List.intercalate, hcs, this]
  have slashes : (p.root ++ String.intercalate "/" p.parts).toList.takeWhile (· == '/') = p.root.toList := by
    rw [String.toList_append, List.takeWhile_append_of_pos, behind, List.append_nil]
    rcases h.root with root | root | root <;> simp [root]
  rw [rootOf, slashes]
  rcases h.root with root | root | root <;> rw [root] <;> rfl

theorem Proper.ofText_text {p : Path} (h : p.Proper) : ofText p.text = p := by
  obtain ⟨root, parts⟩ := p
  rw [text]
  split
  · next empty =>
    obtain ⟨rfl, rfl⟩ := empty
    decide
  · exact congrArg₂ Path.mk h.rootOf_text h.parts_of_intercalate

theorem Proper.text_inj {p q : Path} (hp : p.Proper) (hq : q.Proper) (h : p.text = q.text) : p = q := by
  rw [← hp.ofText_text, h, hq.ofText_text]

end Path

/-- What is listed for the arguments are proper paths, so their texts tell them apart. -/
theorem Lint.proper_of_mem_files {t : FileTree} {arguments : List String} {p : Path}
    (h : p ∈ files t arguments) : p.Proper := by
  obtain ⟨argument, -, h⟩ := List.mem_flatMap.1 h
  rw [expand] at h
  split at h
  · obtain ⟨steps, hsteps, rfl⟩ := List.mem_map.1 h
    obtain ⟨-, e, holds⟩ := mem_checkedBelow_iff.1 hsteps
    exact (Path.proper_ofText argument).below holds.named
  · rw [List.mem_singleton.1 h]
    exact Path.proper_ofText argument

end AwaitLint
