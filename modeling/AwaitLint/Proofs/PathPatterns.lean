import AwaitLint.Proofs.CommaLists

/-! # What path patterns match

A pattern is cut at its stars into blocks. It matches a path that is made of texts which agree with the blocks, one
after the other, with anything between two of them. Patterns are read off a list with commas, and paths are compared
with forward slashes and one in front.
-/

namespace AwaitLint

namespace Glob

/-- The block and the text agree character by character, except where the block has a question mark. -/
def AgreesWith (block text : List Char) : Prop := List.Forall₂ (fun p c => p = '?' ∨ p = c) block text

/-- A star with the block after it, what the star stands for and what the block stands for. -/
structure Stretch where
  gap : List Char
  block : List Char
  text : List Char
  starFree : '*' ∉ block
  agrees : AgreesWith block text

/-- The pattern is `block` and further blocks with stars between them, and the text has their texts with
anything in place of the stars. -/
def Fits (pattern text : List Char) : Prop :=
  ∃ (block start : List Char) (more : List Stretch), '*' ∉ block ∧ AgreesWith block start ∧
    pattern = block ++ (more.flatMap fun s => '*' :: s.block) ∧
    text = start ++ more.flatMap fun s => s.gap ++ s.text

/-- All characters of the pattern stand for themselves, except stars and question marks. -/
def UsesNoSet (pattern : List Char) : Prop := ∀ negated ranges, GlobPart.set negated ranges ∉ parts pattern

/-! ## Fitting, one character of the pattern at a time -/

section Fits

variable {c : Char} {pattern text : List Char}

theorem fits_nil : Fits [] text ↔ text = [] := by
  constructor
  · rintro ⟨block, start, more, -, agrees, hpattern, rfl⟩
    obtain ⟨rfl, hmore⟩ := List.append_eq_nil_iff.1 hpattern.symm
    cases agrees
    cases more with
    | nil => rfl
    | cons s more => simp at hmore
  · rintro rfl
    exact ⟨[], [], [], by simp, .nil, rfl, rfl⟩

theorem fits_star : Fits ('*' :: pattern) text ↔ ∃ gap rest, text = gap ++ rest ∧ Fits pattern rest := by
  constructor
  · rintro ⟨block, start, more, free, agrees, hpattern, rfl⟩
    cases agrees with
    | cons _ _ =>
      rw [List.cons_append] at hpattern
      exact absurd (List.cons.inj hpattern).1 fun h => free (h ▸ List.mem_cons_self)
    | nil =>
      cases more with
      | nil => simp at hpattern
      | cons s more =>
        refine ⟨s.gap, s.text ++ more.flatMap fun s => s.gap ++ s.text, by simp, ?_⟩
        exact ⟨s.block, s.text, more, s.starFree, s.agrees, by simpa using hpattern, rfl⟩
  · rintro ⟨gap, rest, rfl, block, start, more, free, agrees, rfl, rfl⟩
    exact ⟨[], [], ⟨gap, block, start, free, agrees⟩ :: more, by simp, .nil, by simp, by simp⟩

theorem fits_cons (hc : c ≠ '*') :
    Fits (c :: pattern) text ↔ ∃ d rest, text = d :: rest ∧ (c = '?' ∨ c = d) ∧ Fits pattern rest := by
  constructor
  · rintro ⟨block, start, more, free, agrees, hpattern, rfl⟩
    cases agrees with
    | nil =>
      cases more with
      | nil => simp at hpattern
      | cons s more =>
        simp only [List.nil_append, List.flatMap_cons, List.cons_append] at hpattern
        exact absurd (List.cons.inj hpattern).1 hc
    | @cons p d block start same agrees =>
      rw [List.cons_append] at hpattern
      obtain ⟨rfl, rfl⟩ := List.cons.inj hpattern
      refine ⟨d, _, rfl, same, block, start, more, ?_, agrees, rfl, rfl⟩
      exact fun h => free (List.mem_cons_of_mem _ h)
  · rintro ⟨d, rest, rfl, same, block, start, more, free, agrees, rfl, rfl⟩
    exact ⟨c :: block, d :: start, more, by simp [free, Ne.symm hc], .cons same agrees, rfl, rfl⟩

/-- Characters that stand for themselves. -/
def IsLiteral (block : List Char) : Prop := ∀ c ∈ block, c ≠ '*' ∧ c ≠ '?' ∧ c ≠ '['

instance (block : List Char) : Decidable (IsLiteral block) :=
  decidable_of_iff (block.Forall fun c => c ≠ '*' ∧ c ≠ '?' ∧ c ≠ '[') List.forall_iff_forall_mem

theorem fits_literal {block : List Char} (literal : IsLiteral block) :
    Fits (block ++ pattern) text ↔ ∃ rest, text = block ++ rest ∧ Fits pattern rest := by
  induction block generalizing text with
  | nil => simp
  | cons c block ih =>
    obtain ⟨⟨star, mark, -⟩, later⟩ := List.forall_mem_cons.1 literal
    rw [List.cons_append, fits_cons star]
    constructor
    · rintro ⟨d, rest, rfl, same, fits⟩
      obtain ⟨left, rfl, hleft⟩ := (ih later).1 fits
      exact ⟨left, by rw [same.resolve_left mark, List.cons_append], hleft⟩
    · rintro ⟨rest, rfl, fits⟩
      exact ⟨c, block ++ rest, rfl, .inr rfl, (ih later).2 ⟨rest, rfl, fits⟩⟩

/-- Between two stars, a literal is looked for anywhere. -/
theorem fits_inside {block : List Char} (literal : IsLiteral block) :
    Fits ('*' :: (block ++ ['*'])) text ↔ block <:+: text := by
  have all (rest : List Char) : Fits ['*'] rest := fits_star.2 ⟨rest, [], by simp, fits_nil.2 rfl⟩
  rw [fits_star]
  constructor
  · rintro ⟨gap, rest, rfl, fits⟩
    obtain ⟨rest, rfl, -⟩ := (fits_literal literal).1 fits
    exact ⟨gap, rest, by simp⟩
  · rintro ⟨gap, rest, rfl⟩
    exact ⟨gap, block ++ rest, by simp, (fits_literal literal).2 ⟨rest, rfl, all rest⟩⟩

end Fits

/-! ## The ends that are left of a text -/

/-- Each end of a text is an end of those before it. -/
def Nested (left : List (List Char)) : Prop := left.Pairwise fun a b => b <:+ a

/-- One part takes the text to the rest. -/
def Takes : GlobPart → List Char → List Char → Prop
  | .star, text, rest => rest <:+ text
  | part, text, rest => ∃ c, text = c :: rest ∧ part.accepts c = true

theorem mem_tails {text rest : List Char} : rest ∈ tails text ↔ rest <:+ text := by
  induction text with
  | nil => simp [tails]
  | cons c cs ih => rw [tails, List.mem_cons, ih, List.suffix_cons_iff]

theorem nested_tails (text : List Char) : Nested (tails text) := by
  induction text with
  | nil => exact List.pairwise_singleton _ _
  | cons c cs ih =>
    refine .cons (fun rest h => ?_) ih
    exact (mem_tails.1 h).trans (List.suffix_cons c cs)

theorem suffix_of_cons {c d : Char} {cs ds : List Char} (h : d :: ds <:+ c :: cs) : ds <:+ cs := by
  rcases List.suffix_cons_iff.1 h with heq | hsuffix
  · obtain ⟨-, rfl⟩ := List.cons.inj heq
    exact List.suffix_rfl
  · exact (List.suffix_cons d ds).trans hsuffix

theorem nested_advance {left : List (List Char)} (h : Nested left) (part : GlobPart) : Nested (advance left part) := by
  have one : Nested (left.filterMap part.after?) := by
    refine List.Pairwise.filterMap _ (fun a b hab => ?_) h
    rintro a' ha b' hb
    cases a with
    | nil => cases ha
    | cons c cs =>
      cases b with
      | nil => cases hb
      | cons d ds =>
        obtain ⟨-, rfl⟩ : part.accepts c = true ∧ cs = a' := by simpa [GlobPart.after?] using ha
        obtain ⟨-, rfl⟩ : part.accepts d = true ∧ ds = b' := by simpa [GlobPart.after?] using hb
        exact suffix_of_cons hab
  cases part with
  | star =>
    cases left with
    | nil => exact .nil
    | cons longest left => exact nested_tails longest
  | literal c => exact one
  | any => exact one
  | set negated ranges => exact one

theorem mem_advance {left : List (List Char)} (h : Nested left) {part : GlobPart} {rest : List Char} :
    rest ∈ advance left part ↔ ∃ text ∈ left, Takes part text rest := by
  have one : rest ∈ left.filterMap part.after? ↔
      ∃ text ∈ left, ∃ c, text = c :: rest ∧ part.accepts c = true := by
    rw [List.mem_filterMap]
    refine exists_congr fun text => and_congr_right fun _ => ?_
    cases text with
    | nil => simp [GlobPart.after?]
    | cons c cs => simp [GlobPart.after?, and_comm]
  cases part with
  | star =>
    cases left with
    | nil => simp [advance]
    | cons longest left =>
      rw [advance, mem_tails]
      constructor
      · intro hrest
        exact ⟨longest, List.mem_cons_self, hrest⟩
      · rintro ⟨text, htext, hrest⟩
        rcases List.mem_cons.1 htext with rfl | hlater
        · exact hrest
        · exact List.IsSuffix.trans hrest (List.rel_of_pairwise_cons h hlater)
  | literal c => exact one
  | any => exact one
  | set negated ranges => exact one

/-- The part for a character of a pattern without sets. -/
def partOf (c : Char) : GlobPart := if c = '*' then .star else if c = '?' then .any else .literal c

theorem partsFrom_eq_map {cs : List Char} (h : ∀ negated ranges, GlobPart.set negated ranges ∉ partsFrom cs.length cs) :
    partsFrom cs.length cs = cs.map partOf := by
  induction cs with
  | nil => rfl
  | cons c cs ih =>
    have later (part : GlobPart) (hparts : partsFrom (c :: cs).length (c :: cs) = part :: partsFrom cs.length cs)
        (hpart : part = partOf c) : partsFrom (c :: cs).length (c :: cs) = (c :: cs).map partOf := by
      rw [hparts, List.map_cons, ih fun negated ranges hmem => h negated ranges ?_, hpart]
      rw [hparts]
      exact List.mem_cons_of_mem _ hmem
    by_cases hstar : c = '*'
    · exact later .star (by simp [partsFrom, hstar]) (by simp [partOf, hstar])
    by_cases hmark : c = '?'
    · exact later .any (by simp [partsFrom, hmark]) (by simp [partOf, hmark])
    by_cases hset : c = '['
    · subst hset
      cases hsplit : splitSet cs with
      | none => exact later (.literal '[') (by simp [partsFrom, hsplit]) (by simp [partOf])
      | some p =>
        obtain ⟨negated, ranges, hpart⟩ : ∃ negated ranges, setPart p.1 = .set negated ranges := by
          unfold setPart
          dsimp only
          split <;> exact ⟨_, _, rfl⟩
        exact absurd (by simp [partsFrom, hsplit, hpart]) (h negated ranges)
    · exact later (.literal c) (by simp [partsFrom, hstar, hmark, hset]) (by simp [partOf, hstar, hmark])

theorem takes_partOf {c : Char} (hc : c ≠ '*') {text rest : List Char} :
    Takes (partOf c) text rest ↔ ∃ d, text = d :: rest ∧ (c = '?' ∨ c = d) := by
  unfold partOf
  rw [if_neg hc]
  split
  · next hmark => simp [Takes, GlobPart.accepts, hmark]
  · next hmark => simp [Takes, GlobPart.accepts, hmark, eq_comm (a := c)]

theorem fits_cons_iff_takes {c : Char} {pattern text : List Char} :
    Fits (c :: pattern) text ↔ ∃ rest, Takes (partOf c) text rest ∧ Fits pattern rest := by
  by_cases hc : c = '*'
  · subst hc
    rw [fits_star]
    constructor
    · rintro ⟨gap, rest, rfl, fits⟩
      exact ⟨rest, List.suffix_append gap rest, fits⟩
    · rintro ⟨rest, ⟨gap, rfl⟩, fits⟩
      exact ⟨gap, rest, rfl, fits⟩
  · rw [fits_cons hc]
    simp only [takes_partOf hc]
    constructor
    · rintro ⟨d, rest, rfl, same, fits⟩
      exact ⟨rest, ⟨d, rfl, same⟩, fits⟩
    · rintro ⟨rest, ⟨d, rfl, same⟩, fits⟩
      exact ⟨d, rest, rfl, same, fits⟩

/-- The texts that a pattern without sets takes to nothing are those that fit it. -/
theorem nil_mem_foldl_advance {left : List (List Char)} (h : Nested left) (pattern : List Char) :
    [] ∈ (pattern.map partOf).foldl advance left ↔ ∃ text ∈ left, Fits pattern text := by
  induction pattern generalizing left with
  | nil => simp [fits_nil]
  | cons c pattern ih =>
    rw [List.map_cons, List.foldl_cons, ih (nested_advance h _)]
    simp only [mem_advance h, fits_cons_iff_takes]
    constructor
    · rintro ⟨rest, ⟨text, htext, takes⟩, fits⟩
      exact ⟨text, htext, rest, takes, fits⟩
    · rintro ⟨text, htext, rest, takes, fits⟩
      exact ⟨rest, ⟨text, htext, takes⟩, fits⟩

theorem accepts_iff_fits {pattern : String} (plain : UsesNoSet pattern.toList) (text : String) :
    accepts pattern text = true ↔ Fits pattern.toList text.toList := by
  have start : Nested [text.toList] := List.pairwise_singleton _ _
  rw [accepts, parts, partsFrom_eq_map plain, matchParts, List.any_eq_true]
  simp only [List.isEmpty_iff, exists_eq_right, nil_mem_foldl_advance start, List.mem_singleton, exists_eq_left]

theorem usesNoSet_of_not_mem {pattern : List Char} (h : '[' ∉ pattern) : UsesNoSet pattern := by
  have : parts pattern = pattern.map partOf := by
    unfold parts
    induction pattern with
    | nil => rfl
    | cons c cs ih =>
      obtain ⟨hc, hcs⟩ := not_or.1 (List.mem_cons.not.1 h)
      rw [List.length_cons, partsFrom, List.map_cons, ih hcs, if_neg (Ne.symm hc)]
      unfold partOf
      split
      · rfl
      · split <;> rfl
  intro negated ranges hmem
  rw [this, List.mem_map] at hmem
  obtain ⟨c, -, hc⟩ := hmem
  unfold partOf at hc
  split at hc
  · cases hc
  · split at hc <;> cases hc

end Glob

namespace Eligibility

/-! ## Paths -/

/-- The characters of a file name with forward slashes. -/
def slashes (filename : String) : List Char := filename.toList.map fun c => if c = '\\' then '/' else c

/-- The names have their slashes in different directions at most, or one of them lacks the slash in front. -/
def SamePath (f g : String) : Prop :=
  slashes f = slashes g ∨ slashes f = '/' :: slashes g ∧ (slashes g).head? ≠ some '/' ∨
    slashes g = '/' :: slashes f ∧ (slashes f).head? ≠ some '/'

theorem normalizePath_of_rooted {f : String} (h : (slashes f).head? = some '/') :
    normalizePath f = String.ofList (slashes f) := by
  rw [normalizePath]
  exact congrArg String.ofList (if_pos h)

theorem normalizePath_of_not_rooted {f : String} (h : (slashes f).head? ≠ some '/') :
    normalizePath f = String.ofList ('/' :: slashes f) := by
  rw [normalizePath]
  exact congrArg String.ofList (if_neg h)

theorem normalizePath_of_missing {f g : String} (h : slashes f = '/' :: slashes g)
    (missing : (slashes g).head? ≠ some '/') : normalizePath f = normalizePath g := by
  rw [normalizePath_of_rooted (by simp [h]), normalizePath_of_not_rooted missing, h]

theorem SamePath.normalizePath_eq {f g : String} (h : SamePath f g) : normalizePath f = normalizePath g := by
  rcases h with same | ⟨hf, missing⟩ | ⟨hg, missing⟩
  · by_cases hroot : (slashes g).head? = some '/'
    · rw [normalizePath_of_rooted (same ▸ hroot), normalizePath_of_rooted hroot, same]
    · rw [normalizePath_of_not_rooted (same ▸ hroot), normalizePath_of_not_rooted hroot, same]
  · exact normalizePath_of_missing hf missing
  · exact (normalizePath_of_missing hg missing).symm

theorem resolve_of_samePath {f g : String} (hf : f ≠ "") (hg : g ≠ "") (h : SamePath f g)
    (directive : Option String) (handlers services : String) :
    resolve (some f) directive handlers services = resolve (some g) directive handlers services := by
  have patterns (ps : String) : matchesAny f ps = matchesAny g ps := by
    rw [matchesAny, matchesAny, h.normalizePath_eq]
  simp only [resolve, hf, hg, patterns, if_false]

/-- A file is matched if its path fits an entry of the list. An entry with a literal between stars and slashes is
looked for anywhere in the path, and names that stand for one path get the same rules. -/
theorem matchesAny_iff_fits (filename patterns : String)
    (plain : ∀ entry, IsEntry patterns entry → Glob.UsesNoSet entry) :
    (matchesAny filename patterns = true ↔
      ∃ entry, IsEntry patterns entry ∧ Glob.Fits entry (normalizePath filename).toList) ∧
    (∀ name, Glob.IsLiteral name →
      (Glob.accepts (String.ofList ('*' :: '/' :: name ++ ['/', '*'])) (normalizePath filename) = true ↔
        '/' :: name ++ ['/'] <:+: (normalizePath filename).toList)) ∧
    ∀ other directive handlers services, filename ≠ "" → other ≠ "" → SamePath filename other →
      resolve (some filename) directive handlers services = resolve (some other) directive handlers services := by
  refine ⟨?_, fun name literal => ?_, fun other directive handlers services hf hg same =>
    resolve_of_samePath hf hg same directive handlers services⟩
  · rw [matchesAny, List.any_eq_true]
    constructor
    · rintro ⟨pattern, hmem, accepted⟩
      have entry := mem_splitCsv_iff.1 hmem
      exact ⟨pattern.toList, entry, (Glob.accepts_iff_fits (plain _ entry) _).1 accepted⟩
    · rintro ⟨entry, hentry, fits⟩
      refine ⟨String.ofList entry, mem_splitCsv_iff.2 (by simpa using hentry), ?_⟩
      rw [Glob.accepts_iff_fits (by simpa using plain entry hentry), String.toList_ofList]
      exact fits
  · have inside : Glob.IsLiteral ('/' :: name ++ ['/']) := by
      intro c hc
      rcases List.mem_append.1 hc with hc | hc
      · rcases List.mem_cons.1 hc with rfl | hc
        · decide
        · exact literal c hc
      · obtain rfl := List.mem_singleton.1 hc
        decide
    have bracket : '[' ∉ '*' :: '/' :: name ++ ['/', '*'] := by
      have : '[' ∉ name := fun hmem => (literal _ hmem).2.2 rfl
      simp [this]
    have hpattern : '*' :: '/' :: name ++ ['/', '*'] = '*' :: ('/' :: name ++ ['/'] ++ ['*']) := by simp
    rw [Glob.accepts_iff_fits (by simpa using Glob.usesNoSet_of_not_mem bracket), String.toList_ofList, hpattern,
      Glob.fits_inside inside]

theorem matchesAny_iff_fits_windowsName :
    let filename := "app\\v1\\api\\users.py"
    let patterns := " */v?/*, ,*_routes.py "
    (∀ entry, IsEntry patterns entry → Glob.UsesNoSet entry) ∧
      (∃ entry, IsEntry patterns entry ∧ Glob.Fits entry (normalizePath filename).toList) ∧
      Glob.IsLiteral "api".toList ∧ "/api/".toList <:+: (normalizePath filename).toList ∧
      SamePath filename "/app/v1/api/users.py" ∧
      resolve (some filename) none "*/api/*" "" = resolve (some "/app/v1/api/users.py") none "*/api/*" "" := by
  intro filename patterns
  have entries : splitCsv patterns = ["*/v?/*", "*_routes.py"] := by decide +kernel
  have plain : ∀ entry, IsEntry patterns entry → Glob.UsesNoSet entry := by
    intro entry h
    have hmem : String.ofList entry ∈ splitCsv patterns := mem_splitCsv_iff.2 (by simpa using h)
    rw [entries] at hmem
    have : '[' ∉ (String.ofList entry).toList := by
      rcases List.mem_cons.1 hmem with hentry | hmem
      · rw [hentry]; decide
      · rw [List.mem_singleton.1 hmem]; decide
    exact Glob.usesNoSet_of_not_mem (by simpa using this)
  have literal : Glob.IsLiteral "api".toList := by decide
  have same : SamePath filename "/app/v1/api/users.py" := .inr (.inr (by decide +kernel))
  obtain ⟨matched, looked, resolved⟩ := matchesAny_iff_fits filename patterns plain
  exact ⟨plain, matched.1 (by decide +kernel), literal, (looked _ literal).1 (by decide +kernel), same,
    resolved _ none "*/api/*" "" (by decide) (by decide) same⟩

end Eligibility

end AwaitLint
