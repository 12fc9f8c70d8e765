import AwaitLint.Lint.Check
import AwaitLint.Lint.Files
import Mathlib.Data.List.Lex
import Mathlib.Data.List.Nodup
import Mathlib.Data.String.Basic

/-! # What is checked below a directory

A walk lists the entries below a directory whose name ends in `.py`, with no hidden or skipped directory on the
way, each once and in the order of paths. It does not ask what kind of entry it lists: a directory with such a
name is listed too, and then it cannot be read. So a walk lists regular files only exactly if there is no such
directory.
-/

namespace AwaitLint

/-! ## The order of paths -/

theorem Path.partsLe_iff {as bs : List String} : partsLe as bs = true ↔ as ≤ bs := by
  rw [← not_lt]
  induction as generalizing bs with
  | nil => simp [partsLe]
  | cons a as ih =>
    cases bs with
    | nil => simp [partsLe]
    | cons b bs =>
      rw [partsLe, List.cons_lt_cons_iff]
      by_cases h : a = b
      · simp [h, ih]
      · rw [if_neg h, decide_eq_true_eq, or_iff_left fun both => h both.1.symm, not_lt]
        exact lt_iff_le_and_ne.trans (and_iff_left h)

theorem Path.pairwise_mergeSort_partsLe {xs : List (List String)} (h : xs.Nodup) :
    (xs.mergeSort partsLe).Pairwise (· < ·) := by
  have sorted : (xs.mergeSort partsLe).Pairwise fun a b => partsLe a b = true := by
    refine List.pairwise_mergeSort ?_ ?_ xs
    · intro a b c hab hbc
      exact partsLe_iff.2 (le_trans (partsLe_iff.1 hab) (partsLe_iff.1 hbc))
    · intro a b
      rw [Bool.or_eq_true, partsLe_iff, partsLe_iff]
      exact le_total a b
  have apart : (xs.mergeSort partsLe).Nodup := (List.mergeSort_perm xs partsLe).nodup_iff.2 h
  exact (sorted.and apart).imp fun ⟨hle, hne⟩ => lt_of_le_of_ne (partsLe_iff.1 hle) hne

/-! ## Entries and the way to them -/

/-- A file is never taken for a directory. -/
theorem FileEntry.text_file_ne (bytes : List Nat) : (file bytes).text ≠ .error .isDirectory := by
  rw [text]
  cases Text.decode bytes <;> simp

namespace FileTree

variable {t : FileTree} {place steps : List String}

/-- The tree has one entry for a place, and what an entry stands in is a directory. -/
structure WellFormed (t : FileTree) : Prop where
  single : (t.entries.map Prod.fst).Nodup
  parents : ∀ e ∈ t.entries, ∀ n < e.1.length, t.lookup (e.1.take n) = some .directory

/-- The entry is found below the place, by names. -/
structure Holds (t : FileTree) (place steps : List String) (e : FileEntry) : Prop where
  nonempty : steps ≠ []
  named : ∀ s ∈ steps, isName s = true
  found : t.lookup (place ++ steps) = some e

theorem exists_lookup_iff (h : steps ≠ []) :
    (∃ e, t.lookup steps = some e) ↔ steps ∈ t.entries.map Prod.fst := by
  rw [lookup, if_neg h, ← Option.isSome_iff_exists, Option.isSome_map, List.find?_isSome, List.mem_map]
  simp only [beq_iff_eq]

theorem mem_below_iff : steps ∈ t.below place ↔ ∃ e, t.Holds place steps e := by
  have entry : steps ≠ [] → ((∃ e, t.lookup (place ++ steps) = some e) ↔
      place ++ steps ∈ t.entries.map Prod.fst) := fun h => exists_lookup_iff (by simp [h])
  rw [below, List.mem_filter, List.mem_map, List.all_eq_true]
  constructor
  · rintro ⟨⟨e, he, rfl⟩, named⟩
    obtain ⟨he, hp⟩ := List.mem_filter.1 he
    rw [Bool.and_eq_true, List.isPrefixOf_iff_prefix, decide_eq_true_eq] at hp
    have back : place ++ e.1.drop place.length = e.1 := List.prefix_iff_eq_append.1 hp.1
    have nonempty : e.1.drop place.length ≠ [] := by simpa using hp.2
    obtain ⟨f, found⟩ := (entry nonempty).2 (back.symm ▸ List.mem_map_of_mem he)
    exact ⟨f, nonempty, named, found⟩
  · rintro ⟨f, nonempty, named, found⟩
    obtain ⟨e, he, hsteps⟩ := List.mem_map.1 ((entry nonempty).1 ⟨f, found⟩)
    refine ⟨⟨e, List.mem_filter.2 ⟨he, ?_⟩, by rw [hsteps, List.drop_left]⟩, named⟩
    have longer := List.length_pos_of_ne_nil nonempty
    simp only [hsteps, List.length_append, Bool.and_eq_true, List.isPrefixOf_iff_prefix,
      List.prefix_append, decide_eq_true_eq, true_and]
    omega

theorem WellFormed.nodup_below (wf : t.WellFormed) (place : List String) : (t.below place).Nodup := by
  refine List.Nodup.filter _ ?_
  -- Put behind the place again, the steps are places of entries.
  refine List.Nodup.of_map (place ++ ·) ?_
  rw [List.map_map]
  have back : ((t.entries.filter fun e => place.isPrefixOf e.1 && decide (place.length < e.1.length)).map
      ((place ++ ·) ∘ fun e => e.1.drop place.length)) =
      (t.entries.filter fun e => place.isPrefixOf e.1 && decide (place.length < e.1.length)).map Prod.fst := by
    refine List.map_congr_left fun e he => ?_
    have hp := (List.mem_filter.1 he).2
    rw [Bool.and_eq_true, List.isPrefixOf_iff_prefix] at hp
    exact List.prefix_iff_eq_append.1 hp.1
  rw [back]
  exact wf.single.sublist (List.filter_sublist.map Prod.fst)

/-- Steps go on from the directory that the first of them lead to. -/
theorem follow_append {start : List String} {first rest : List String} (way : t.follow start first = .ok place)
    (dir : t.lookup place = some .directory) : t.follow start (first ++ rest) = t.follow place rest := by
  induction first generalizing start with
  | nil =>
    obtain rfl : start = place := Except.ok.inj way
    rfl
  | cons step first ih =>
    rw [follow] at way
    rw [List.cons_append, follow]
    split at way
    · cases way
    · exact ih way
    · next bytes h =>
      -- A file on the way is no directory, so it is not the place.
      split at way
      · obtain rfl := Except.ok.inj way
        rw [h] at dir
        cases dir
      · cases way

/-- Names lead through directories to what they name. -/
theorem follow_names (named : ∀ s ∈ steps, isName s = true) (dirs : ∀ n < steps.length, 0 < n →
    t.lookup (place ++ steps.take n) = some .directory) {e : FileEntry}
    (found : t.lookup (place ++ steps) = some e) : t.follow place steps = .ok (place ++ steps) := by
  induction steps generalizing place with
  | nil => rw [follow, List.append_nil]
  | cons step rest ih =>
    have down : step ≠ ".." := by
      rintro rfl
      exact absurd (named ".." List.mem_cons_self) (by decide)
    have behind : place ++ step :: rest = place ++ [step] ++ rest := by simp
    rw [follow, if_neg down]
    by_cases last : rest = []
    · subst last
      rw [found]
      cases e with
      | file => rfl
      | directory => rfl
    · have through : t.lookup (place ++ [step]) = some .directory :=
        dirs 1 (by simpa using List.length_pos_of_ne_nil last) Nat.one_pos
      rw [through, behind]
      refine ih (fun s hs => named s (List.mem_cons_of_mem _ hs)) (fun n hn hpos => ?_) (behind ▸ found)
      have := dirs (n + 1) (by simpa using hn) (Nat.succ_pos n)
      simpa using this

theorem directory?_eq_some {p : Path} (dir : t.directory? p = some place) :
    t.resolve p = .ok place ∧ t.lookup place = some .directory := by
  unfold directory? at dir
  split at dir
  · next h =>
    split at dir
    · next hd =>
      obtain rfl := Option.some.inj dir
      exact ⟨h, hd⟩
    · cases dir
  · cases dir

/-- What is below a directory is read where it is found. -/
theorem WellFormed.readText_below (wf : t.WellFormed) {p : Path} (dir : t.directory? p = some place)
    {e : FileEntry} (h : t.Holds place steps e) : t.readText (p.below steps) = e.text := by
  obtain ⟨way, isDir⟩ := directory?_eq_some dir
  have nonempty : place ++ steps ≠ [] := by simp [h.nonempty]
  obtain ⟨entry, mem, at?⟩ := List.mem_map.1 ((exists_lookup_iff nonempty).1 ⟨e, h.found⟩)
  have dirs : ∀ n < steps.length, 0 < n → t.lookup (place ++ steps.take n) = some .directory := by
    intro n hn _
    have := wf.parents entry mem (place.length + n) (by rw [at?, List.length_append]; omega)
    rwa [at?, List.take_length_add_append] at this
  have joined : (p.below steps).steps = p.steps ++ steps := by
    unfold Path.steps Path.below
    split <;> rfl
  have resolved : t.resolve (p.below steps) = .ok (place ++ steps) := by
    rw [resolve, joined, follow_append way isDir, follow_names h.named dirs h.found]
  rw [readText, resolved]
  simp only [h.found]

end FileTree

/-! ## The listed entries -/

namespace Lint

/-- The name ends in `.py`, and no directory on the way starts with a dot or is one of those that are
skipped. -/
def Qualifies (steps : List String) : Prop :=
  ∃ way stem, steps = way ++ [stem ++ ".py"] ∧
    ∀ d ∈ way, (∀ rest, d ≠ "." ++ rest) ∧ d ∉ skippedDirectories

theorem isSuffixOf_toList_iff {name ending : String} :
    ending.toList.isSuffixOf name.toList = true ↔ ∃ stem, name = stem ++ ending := by
  rw [List.isSuffixOf_iff_suffix]
  constructor
  · rintro ⟨stem, h⟩
    exact ⟨String.ofList stem, by rw [← String.toList_inj, String.toList_append, String.toList_ofList, h]⟩
  · rintro ⟨stem, rfl⟩
    exact ⟨stem.toList, by rw [String.toList_append]⟩

theorem isPrefixOf_toList_iff {name start : String} :
    start.toList.isPrefixOf name.toList = true ↔ ∃ rest, name = start ++ rest := by
  rw [List.isPrefixOf_iff_prefix]
  constructor
  · rintro ⟨rest, h⟩
    exact ⟨String.ofList rest, by rw [← String.toList_inj, String.toList_append, String.toList_ofList, h]⟩
  · rintro ⟨rest, rfl⟩
    exact ⟨rest.toList, by rw [String.toList_append]⟩

theorem isSkipped_eq_false_iff {d : String} :
    isSkipped d = false ↔ (∀ rest, d ≠ "." ++ rest) ∧ d ∉ skippedDirectories := by
  rw [isSkipped, Bool.or_eq_false_iff, ← Bool.not_eq_true, isPrefixOf_toList_iff, not_exists]
  simp

theorem isChecked_iff {steps : List String} : isChecked steps = true ↔ Qualifies steps := by
  rw [isChecked, Bool.and_eq_true]
  rcases List.eq_nil_or_concat steps with rfl | ⟨way, name, rfl⟩
  · simp [Qualifies]
  · simp only [List.concat_eq_append, List.getLast?_concat, Option.any_some, isSuffixOf_toList_iff,
      List.dropLast_concat, Bool.not_eq_true', List.any_eq_false, Bool.not_eq_true, isSkipped_eq_false_iff]
    constructor
    · rintro ⟨⟨stem, rfl⟩, clear⟩
      exact ⟨way, stem, rfl, clear⟩
    · rintro ⟨way', stem, same, clear⟩
      obtain ⟨rfl, last⟩ := List.append_inj' same rfl
      exact ⟨⟨stem, List.singleton_inj.1 last⟩, clear⟩

section Walk

variable {t : FileTree} {place : List String} {argument : String}

theorem files_of_directory (dir : t.directory? (.ofText argument) = some place) :
    files t [argument] = (checkedBelow t place).map (Path.ofText argument).below := by
  simp [files, expand, dir]

theorem mem_checkedBelow_iff {steps : List String} :
    steps ∈ checkedBelow t place ↔ Qualifies steps ∧ ∃ e, t.Holds place steps e := by
  rw [checkedBelow, List.mem_mergeSort, List.mem_filter, FileTree.mem_below_iff, isChecked_iff, and_comm]

theorem pairwise_checkedBelow (wf : t.WellFormed) : (checkedBelow t place).Pairwise (· < ·) :=
  Path.pairwise_mergeSort_partsLe ((wf.nodup_below place).filter _)

/-- The path leads to something below the directory that qualifies: an entry of this kind. -/
def Offers (t : FileTree) (p : Path) (place : List String) (e : FileEntry) (q : Path) : Prop :=
  ∃ steps, q = p.below steps ∧ Qualifies steps ∧ t.Holds place steps e

/-- Below a directory, a walk lists the entries that qualify, whatever they are, each once and in the order of
paths. What it lists is read as what it is, so a listed directory cannot be read. Therefore it lists exactly
the regular files that qualify, and nothing that cannot be read for being no file, exactly if no directory
qualifies. -/
theorem files_list_entries (wf : t.WellFormed) (dir : t.directory? (.ofText argument) = some place) :
    let p := Path.ofText argument
    let listed := files t [argument]
    (∀ q, q ∈ listed ↔ ∃ e, Offers t p place e q) ∧
    listed.Pairwise (fun q r => q.parts < r.parts) ∧
    (∀ e q, Offers t p place e q → t.readText q = e.text) ∧
    ((∀ q, q ∈ listed ↔ ∃ bytes, Offers t p place (.file bytes) q) ↔
      ∀ q, ¬ Offers t p place .directory q) ∧
    ((∀ q ∈ listed, t.readText q ≠ .error .isDirectory) ↔ ∀ q, ¬ Offers t p place .directory q) := by
  intro p listed
  have mem : ∀ q, q ∈ listed ↔ ∃ e, Offers t p place e q := by
    intro q
    rw [show listed = _ from files_of_directory dir, List.mem_map]
    constructor
    · rintro ⟨steps, hsteps, rfl⟩
      obtain ⟨qualifies, e, holds⟩ := mem_checkedBelow_iff.1 hsteps
      exact ⟨e, steps, rfl, qualifies, holds⟩
    · rintro ⟨e, steps, rfl, qualifies, holds⟩
      exact ⟨steps, mem_checkedBelow_iff.2 ⟨qualifies, e, holds⟩, rfl⟩
  have read : ∀ e q, Offers t p place e q → t.readText q = e.text := by
    rintro e q ⟨steps, rfl, -, holds⟩
    exact wf.readText_below dir holds
  refine ⟨mem, ?_, read, ?_, ?_⟩
  · rw [show listed = _ from files_of_directory dir, List.pairwise_map]
    exact (pairwise_checkedBelow wf).imp fun h => List.append_left_lt h
  · constructor
    · intro exactly q offered
      obtain ⟨bytes, regular⟩ := (exactly q).1 ((mem q).2 ⟨_, offered⟩)
      exact FileEntry.text_file_ne bytes ((read _ q regular).symm.trans (read _ q offered))
    · intro none q
      rw [mem]
      constructor
      · rintro ⟨e, offered⟩
        cases e with
        | file bytes => exact ⟨bytes, offered⟩
        | directory => exact absurd offered (none q)
      · rintro ⟨bytes, offered⟩
        exact ⟨_, offered⟩
  · constructor
    · intro readable q offered
      exact readable q ((mem q).2 ⟨_, offered⟩) (read _ q offered)
    · intro none q hq
      obtain ⟨e, offered⟩ := (mem q).1 hq
      cases e with
      | file bytes =>
        rw [read _ q offered]
        exact FileEntry.text_file_ne bytes
      | directory => exact absurd offered (none q)

end Walk

/-- A package with a hidden directory, a skipped one and a text beside its code. -/
def sampleTree : FileTree where
  entries := [(["app"], .directory), (["app", ".git"], .directory), (["app", ".git", "x.py"], .file []),
    (["app", "lib"], .directory), (["app", "lib", "a.py"], .file [121]), (["app", "lib", "venv"], .directory),
    (["app", "lib", "venv", "y.py"], .file []), (["app", "notes.txt"], .file []),
    (["app", "users.py"], .file [120])]

theorem files_list_entries_sampleTree :
    let p := Path.ofText "./app"
    let listed := files sampleTree ["./app"]
    sampleTree.WellFormed ∧ sampleTree.directory? p = some ["app"] ∧
      listed = [⟨"", ["app", "lib", "a.py"]⟩, ⟨"", ["app", "users.py"]⟩] ∧
      (∀ q, q ∈ listed ↔ ∃ e, Offers sampleTree p ["app"] e q) ∧
      listed.Pairwise (fun q r => q.parts < r.parts) ∧
      ∀ e q, Offers sampleTree p ["app"] e q → sampleTree.readText q = e.text := by
  intro p listed
  have wf : sampleTree.WellFormed := ⟨by decide, by decide⟩
  have dir : sampleTree.directory? p = some ["app"] := by decide
  have sorted : checkedBelow sampleTree ["app"] = [["lib", "a.py"], ["users.py"]] :=
    List.mergeSort_of_pairwise (by decide +kernel)
  have paths : listed = [⟨"", ["app", "lib", "a.py"]⟩, ⟨"", ["app", "users.py"]⟩] := by
    rw [show listed = _ from files_of_directory dir, sorted]
    decide
  obtain ⟨mem, ordered, read, -⟩ := files_list_entries wf dir
  exact ⟨wf, dir, paths, mem, ordered, read⟩

/-- A file, and a directory that is named like one. -/
def misnamedTree : FileTree where
  entries := [(["pkg"], .directory), (["pkg", "a.py"], .file []), (["pkg", "mod.py"], .directory)]

/-- The directory is listed although it is no file, and for that alone it is an error. -/
theorem files_list_directory :
    let q : Path := ⟨"", ["pkg", "mod.py"]⟩
    misnamedTree.WellFormed ∧ misnamedTree.directory? (.ofText "pkg") = some ["pkg"] ∧
      q ∈ files misnamedTree ["pkg"] ∧ Offers misnamedTree (.ofText "pkg") ["pkg"] .directory q ∧
      (¬ ∃ bytes, Offers misnamedTree (.ofText "pkg") ["pkg"] (.file bytes) q) ∧
      misnamedTree.readText q = .error .isDirectory ∧
      check .default misnamedTree false q ⟨0⟩ = (.error (.unreadable .isDirectory), ⟨0⟩) := by
  intro q
  have wf : misnamedTree.WellFormed := ⟨by decide, by decide⟩
  have dir : misnamedTree.directory? (.ofText "pkg") = some ["pkg"] := by decide
  have isPath : q = (Path.ofText "pkg").below ["mod.py"] := by decide
  have qualifies : Qualifies ["mod.py"] := ⟨[], "mod", by decide, by simp⟩
  have holds : misnamedTree.Holds ["pkg"] ["mod.py"] .directory := ⟨by decide, by decide, by decide⟩
  have read : misnamedTree.readText q = .error .isDirectory := isPath ▸ wf.readText_below dir holds
  refine ⟨wf, dir, ?_, ⟨_, isPath, qualifies, holds⟩, ?_, read, by rw [check, diagnose, read]⟩
  · rw [files_of_directory dir, isPath]
    exact List.mem_map_of_mem (mem_checkedBelow_iff.2 ⟨qualifies, _, holds⟩)
  · rintro ⟨bytes, steps, same, -, regular⟩
    rw [same, wf.readText_below dir regular] at read
    exact FileEntry.text_file_ne bytes read

end Lint

end AwaitLint
