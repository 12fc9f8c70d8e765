import AwaitLint.Proofs.Findings
import AwaitLint.Proofs.KeyBytes
import AwaitLint.Proofs.ResultContent

/-! # When one key means one outcome

What is digested for a key is a text, a file name and a fingerprint of the settings, with a zero after
each. The fingerprint joins the combinators, the handler patterns and the service patterns with bars. If
the parts hold neither zeros nor bars, they can be told apart, and equal keys come from equal parts; the
combinators only matter as a set. Neither a text with a zero nor one under a name with a zero parses, but
the two are refused for different reasons. So two analyses with one key, under settings that have the same
rules or can be told apart, have one outcome exactly if both names hold a zero or neither does. Under other
settings the outcomes may differ.
-/

namespace AwaitLint

/-! ## Lists written with separators -/

namespace Text

/-- The parts of a text hold its characters, without the one at which it is split. -/
theorem mem_of_mem_splitChar {sep c : Char} {cs part : List Char} (h : part ∈ splitChar sep cs)
    (hc : c ∈ part) : c ≠ sep ∧ c ∈ cs := by
  induction cs generalizing part with
  | nil =>
    rw [List.mem_singleton.1 h] at hc
    exact absurd hc List.not_mem_nil
  | cons d cs ih =>
    have later : ∀ {part}, part ∈ splitChar sep cs → c ∈ part → c ≠ sep ∧ c ∈ d :: cs :=
      fun h hc => (ih h hc).imp_right (List.mem_cons_of_mem _)
    rw [splitChar] at h
    split at h
    · rcases List.mem_cons.1 h with rfl | h
      · exact absurd hc List.not_mem_nil
      · exact later h hc
    · next hd =>
      have first : d ≠ sep ∧ d ∈ d :: cs := ⟨hd, List.mem_cons_self⟩
      split at h
      · rw [List.mem_singleton.1 h, List.mem_singleton] at hc
        exact hc ▸ first
      · next w ws hw =>
        rw [hw] at later
        rcases List.mem_cons.1 h with rfl | h
        · rcases List.mem_cons.1 hc with rfl | hc
          · exact first
          · exact later List.mem_cons_self hc
        · exact later (List.mem_cons_of_mem _ h) hc

theorem stripList_subset (cs : List Char) : stripList cs ⊆ cs := by
  intro c h
  have inner := (List.dropWhile_sublist _).subset (List.mem_reverse.1 h)
  exact (List.dropWhile_sublist _).subset (List.mem_reverse.1 inner)

end Text

/-- A part of a list that is written with commas is not empty, holds no comma, and holds only characters of
the list. -/
theorem part_of_mem_splitCsv {value part : String} (h : part ∈ splitCsv value) :
    part ≠ "" ∧ ',' ∉ part.toList ∧ part.toList ⊆ value.toList := by
  obtain ⟨hmem, hne⟩ := List.mem_filter.1 h
  obtain ⟨cs, hcs, rfl⟩ := List.mem_map.1 hmem
  have chars : ∀ c ∈ Text.stripList cs, c ≠ ',' ∧ c ∈ value.toList :=
    fun c hc => Text.mem_of_mem_splitChar hcs (Text.stripList_subset cs hc)
  rw [String.toList_ofList]
  exact ⟨by simpa using hne, fun hc => (chars _ hc).1 rfl, fun c hc => (chars c hc).2⟩

section
variable {α : Type} {sep : α}

private theorem mem_intercalate {x : α} {parts : List (List α)} (h : x ∈ [sep].intercalate parts) :
    x = sep ∨ ∃ part ∈ parts, x ∈ part := by
  induction parts with
  | nil => exact absurd h List.not_mem_nil
  | cons part parts ih =>
    cases parts with
    | nil => exact .inr ⟨part, List.mem_cons_self, by simpa using h⟩
    | cons next parts =>
      rw [List.intercalate_cons_cons, List.mem_append, List.mem_append, List.mem_singleton] at h
      rcases h with (h | h) | h
      · exact .inr ⟨part, List.mem_cons_self, h⟩
      · exact .inl h
      · exact (ih h).imp_right fun ⟨part, hpart, hx⟩ => ⟨part, List.mem_cons_of_mem _ hpart, hx⟩

/-- Parts that are not empty and hold no separator are read back from what they are joined to. -/
private theorem filter_splitOn_intercalate [DecidableEq α] {parts : List (List α)}
    (h : ∀ part ∈ parts, part ≠ [] ∧ sep ∉ part) :
    (([sep].intercalate parts).splitOn sep).filter (fun part => part ≠ []) = parts := by
  by_cases hp : parts = []
  · subst hp
    rfl
  · rw [List.splitOn_intercalate sep (fun part hpart => (h part hpart).2) hp]
    exact List.filter_eq_self.2 fun part hpart => by simpa using (h part hpart).1

end

/-! ## Names as a set -/

private theorem nodup_eraseDups (names : List String) : names.eraseDups.Nodup := by
  induction hk : names.length using Nat.strongRecOn generalizing names with
  | ind k ih =>
    cases names with
    | nil => exact List.nodup_nil
    | cons n ns =>
      have shorter : (ns.filter fun m => !m == n).length < k :=
        hk ▸ Nat.lt_succ_of_le (List.length_filter_le _ _)
      rw [List.eraseDups_cons, List.nodup_cons, List.mem_eraseDups]
      exact ⟨by simp, ih _ shorter _ rfl⟩

theorem mem_sortedNames {n : String} {names : List String} : n ∈ sortedNames names ↔ n ∈ names := by
  rw [sortedNames, List.mem_mergeSort, List.mem_eraseDups]

/-- Sorting forgets the order of names and how often they occur. -/
theorem sortedNames_congr {names names' : List String} (h : ∀ n, n ∈ names ↔ n ∈ names') :
    sortedNames names = sortedNames names' := by
  have sorted : ∀ ns : List String, (sortedNames ns).Pairwise (· ≤ ·) := by
    intro ns
    refine (List.pairwise_mergeSort ?_ ?_ _).imp of_decide_eq_true
    · intro a b c hab hbc
      exact decide_eq_true (String.le_trans (of_decide_eq_true hab) (of_decide_eq_true hbc))
    · intro a b
      simpa using String.le_total a b
  have perm : (sortedNames names).Perm (sortedNames names') := by
    refine (List.mergeSort_perm _ _).trans (.trans ?_ (List.mergeSort_perm _ _).symm)
    refine (List.perm_ext_iff_of_nodup (nodup_eraseDups _) (nodup_eraseDups _)).2 fun n => ?_
    rw [List.mem_eraseDups, List.mem_eraseDups, h]
  exact perm.eq_of_pairwise (fun _ _ _ _ => String.le_antisymm) (sorted _) (sorted _)

/-! ## What a fingerprint determines -/

namespace Settings

/-- The settings choose the same rules: the same combinators, in any order, and the same patterns. -/
structure SameRules (s s' : Settings) : Prop where
  combinators : ∀ c, c ∈ s.combinators ↔ c ∈ s'.combinators
  handlers : s.handlerPatterns = s'.handlerPatterns
  services : s.servicePatterns = s'.servicePatterns

/-- The parts of a fingerprint can be told apart: there is no bar in the first two, and no zero. -/
structure Separable (s : Settings) : Prop where
  noBar : ∀ text ∈ [s.parallelCombinators, s.handlerPatterns], '|' ∉ text.toList
  noZero :
    ∀ text ∈ [s.parallelCombinators, s.handlerPatterns, s.servicePatterns], '\x00' ∉ text.toList

/-- The combinators as a fingerprint lists them. -/
def joinedCombinators (s : Settings) : List Char :=
  [','].intercalate ((sortedNames s.combinators).map String.toList)

theorem toList_fingerprint (s : Settings) : s.fingerprint.toList =
    s.joinedCombinators ++ '|' :: (s.handlerPatterns.toList ++ '|' :: s.servicePatterns.toList) := by
  simp [fingerprint, String.toList_intercalate, joinedCombinators]

theorem mem_joinedCombinators {s : Settings} {c : Char} (h : c ∈ s.joinedCombinators) :
    c = ',' ∨ c ∈ s.parallelCombinators.toList := by
  refine (mem_intercalate h).imp_right ?_
  rintro ⟨part, hpart, hc⟩
  obtain ⟨n, hn, rfl⟩ := List.mem_map.1 hpart
  exact (part_of_mem_splitCsv (mem_sortedNames.1 hn)).2.2 hc

theorem joinedCombinators_inj {s s' : Settings} (h : s.joinedCombinators = s'.joinedCombinators) :
    sortedNames s.combinators = sortedNames s'.combinators := by
  have parts : ∀ s : Settings, ∀ part ∈ (sortedNames s.combinators).map String.toList,
      part ≠ [] ∧ ',' ∉ part := by
    intro s part hpart
    obtain ⟨n, hn, rfl⟩ := List.mem_map.1 hpart
    obtain ⟨hne, hcomma, -⟩ := part_of_mem_splitCsv (mem_sortedNames.1 hn)
    exact ⟨by simpa using hne, hcomma⟩
  have read := filter_splitOn_intercalate (parts s)
  rw [← joinedCombinators, h, joinedCombinators, filter_splitOn_intercalate (parts s')] at read
  exact (List.map_injective_iff.2 fun _ _ => String.toList_inj.1) read.symm

theorem SameRules.symm {s s' : Settings} (h : s.SameRules s') : s'.SameRules s :=
  ⟨fun c => (h.combinators c).symm, h.handlers.symm, h.services.symm⟩

theorem SameRules.fingerprint_eq {s s' : Settings} (h : s.SameRules s') :
    s.fingerprint = s'.fingerprint := by
  rw [fingerprint, fingerprint, sortedNames_congr h.combinators, h.handlers, h.services]

theorem Separable.zero_not_mem {s : Settings} (h : s.Separable) : '\x00' ∉ s.fingerprint.toList := by
  have zero := h.noZero
  simp only [List.forall_mem_cons] at zero
  rw [toList_fingerprint]
  simp only [List.mem_append, List.mem_cons, not_or]
  refine ⟨fun hc => ?_, by decide, zero.2.1, by decide, zero.2.2.1⟩
  exact (mem_joinedCombinators hc).elim (by decide) zero.1

theorem Separable.bar_not_mem {s : Settings} (h : s.Separable) : '|' ∉ s.joinedCombinators :=
  fun hc => (mem_joinedCombinators hc).elim (by decide) (h.noBar _ List.mem_cons_self)

/-- Settings whose parts can be told apart have the same rules if they have one fingerprint. -/
theorem Separable.sameRules {s s' : Settings} (hs : s.Separable) (hs' : s'.Separable)
    (h : s.fingerprint = s'.fingerprint) : s.SameRules s' := by
  have text := congrArg String.toList h
  rw [toList_fingerprint, toList_fingerprint] at text
  obtain ⟨names, patterns⟩ := CodeKey.append_separator_inj hs.bar_not_mem hs'.bar_not_mem text
  have bar := hs.noBar _ (List.mem_cons_of_mem _ List.mem_cons_self)
  have bar' := hs'.noBar _ (List.mem_cons_of_mem _ List.mem_cons_self)
  obtain ⟨handlers, services⟩ := CodeKey.append_separator_inj bar bar' patterns
  refine ⟨fun c => ?_, String.toList_inj.1 handlers, String.toList_inj.1 services⟩
  rw [← mem_sortedNames, joinedCombinators_inj names, mem_sortedNames]

end Settings

/-! ## What the digested bytes determine -/

namespace CodeKey
variable {code code' : String} {filename filename' : Option String} {ruleset ruleset' : String}

/-- Fingerprints without a zero are what stands before the last zero. -/
theorem ruleset_eq_of_message_eq (hz : '\x00' ∉ ruleset.toList) (hz' : '\x00' ∉ ruleset'.toList)
    (h : message code filename ruleset = message code' filename' ruleset') : ruleset = ruleset' := by
  rw [message_eq_encode, message_eq_encode] at h
  have reversed := congrArg List.reverse (Text.encode_inj h)
  simp only [List.reverse_append, List.reverse_cons, List.reverse_nil, List.append_assoc,
    List.nil_append, List.cons_append, List.cons.injEq, true_and] at reversed
  have same := append_separator_inj (by simpa using hz) (by simpa using hz') reversed
  exact String.toList_inj.1 (List.reverse_injective same.1)

end CodeKey

/-! ## Combinators as a set -/

theorem isCombinatorCall_congr {cs cs' : List String} (h : ∀ c, c ∈ cs ↔ c ∈ cs') :
    isCombinatorCall cs = isCombinatorCall cs' := by
  funext n
  unfold isCombinatorCall
  split
  · rw [Bool.eq_iff_iff, List.contains_iff_mem, List.contains_iff_mem, h]
  · rfl

theorem Place.exit?_congr {cs cs' : List String} (h : isCombinatorCall cs = isCombinatorCall cs') :
    Place.exit? cs = Place.exit? cs' := by
  funext p
  obtain ⟨n, owners⟩ := p
  cases n with
  | asyncDef => simp only [exit?, Node.closedScope?, Scope.absorb, h]
  | _ => rfl

namespace Analysis

theorem findings_congr {s s' : Settings} (h : s.SameRules s') (r : Request) (e : Eligibility)
    (comments : Comment.Comments) (tree : Node) :
    findings (watch s r e) comments tree = findings (watch s' r e) comments tree := by
  have members (c : String) :
      c ∈ r.combinators.getD s.combinators ↔ c ∈ r.combinators.getD s'.combinators := by
    cases r.combinators with
    | none => exact h.combinators c
    | some cs => exact Iff.rfl
  have exits := Place.exit?_congr (isCombinatorCall_congr members)
  rw [findings, findings, walk_diagnostics (passive_watch s r e), walk_diagnostics (passive_watch s' r e)]
  simp only [watch, exits]
  rfl

/-- The rules are all that the outcome takes from the settings. -/
theorem run_congr_rules {s s' : Settings} (h : s.SameRules s') (r : Request) : run s r = run s' r := by
  have outcome : ofTree s r = ofTree s' r := by
    funext tree
    have eligible : eligibility s r (Comment.scan r.code.toList) =
        eligibility s' r (Comment.scan r.code.toList) := by
      rw [eligibility, eligibility, h.handlers, h.services]
    simp only [ofTree, eligible, findings_congr h]
  rw [run, run, outcome]

theorem run_of_zero_in_name {filename : Option String} (h : '\x00' ∈ (filename.getD "").toList)
    (s : Settings) (code : String) :
    run s { code := code, filename := filename } = .error ⟨1, 0, .nullInName⟩ := by
  rw [run, parse, Grammar.parseFile_of_zero h]
  rfl

theorem run_of_zero_in_code {code : String} {filename : Option String} (h : '\x00' ∈ code.toList)
    (hf : '\x00' ∉ (filename.getD "").toList) (s : Settings) :
    run s { code := code, filename := filename } = .error ⟨1, 0, .nullBytes⟩ := by
  have contains : code.toList.contains '\x00' = true := List.contains_iff_mem.2 h
  rw [run, parse, Grammar.parseFile_of_not_mem hf, Grammar.parseText, contains]
  rfl

section
variable {s s' : Settings} {code code' : String} {filename filename' : Option String}
  (same : s.SameRules s')
  (h : CodeKey.message code filename s.fingerprint = CodeKey.message code' filename' s'.fingerprint)
include same h

/-- Of two analyses with one message, a zero in only one of the file names is in the text of the other. -/
private theorem run_ne_of_zero_in_name (hf : '\x00' ∈ (filename.getD "").toList)
    (hf' : '\x00' ∉ (filename'.getD "").toList) :
    run s { code := code, filename := filename } ≠ run s' { code := code', filename := filename' } := by
  rw [same.fingerprint_eq] at h
  have hc' : '\x00' ∈ code'.toList := by
    by_contra hc'
    have names := (CodeKey.message_inj_of_not_mem hc' hf' h.symm).2
    exact hf' (names ▸ hf)
  rw [run_of_zero_in_name hf, run_of_zero_in_code hc' hf']
  simp

private theorem run_eq_of_not_mem (hf : '\x00' ∉ (filename.getD "").toList)
    (hf' : '\x00' ∉ (filename'.getD "").toList) :
    run s { code := code, filename := filename } = run s' { code := code', filename := filename' } := by
  rw [same.fingerprint_eq] at h
  by_cases hc : '\x00' ∈ code.toList
  · have hc' : '\x00' ∈ code'.toList := by
      by_contra hc'
      exact hc' ((CodeKey.message_inj_of_not_mem hc' hf' h.symm).1 ▸ hc)
    rw [run_of_zero_in_code hc hf, run_of_zero_in_code hc' hf']
  · obtain ⟨hcode, hname⟩ := CodeKey.message_inj_of_not_mem hc hf h
    rw [run_congr_rules same, ← hcode, run_congr s' code hname]

end

/-- Two analyses for which the same bytes are digested, under settings with the same rules or with parts
that can be told apart, have the same outcome exactly if both file names hold a zero or neither does. -/
theorem run_eq_iff_of_message_eq {s s' : Settings} {code code' : String}
    {filename filename' : Option String}
    (h : CodeKey.message code filename s.fingerprint = CodeKey.message code' filename' s'.fingerprint)
    (rules : s.SameRules s' ∨ s.Separable ∧ s'.Separable) :
    run s { code := code, filename := filename } = run s' { code := code', filename := filename' } ↔
      ('\x00' ∈ (filename.getD "").toList ↔ '\x00' ∈ (filename'.getD "").toList) := by
  have same : s.SameRules s' := by
    rcases rules with same | ⟨hs, hs'⟩
    · exact same
    · exact hs.sameRules hs' (CodeKey.ruleset_eq_of_message_eq hs.zero_not_mem hs'.zero_not_mem h)
  by_cases hf : '\x00' ∈ (filename.getD "").toList <;> by_cases hf' : '\x00' ∈ (filename'.getD "").toList
  · simp only [hf, hf', iff_true]
    rw [run_of_zero_in_name hf, run_of_zero_in_name hf']
  · simp only [hf, hf', iff_false, not_true_eq_false]
    exact run_ne_of_zero_in_name same h hf hf'
  · simp only [hf, hf', false_iff, not_true_eq_false, iff_false]
    exact (run_ne_of_zero_in_name same.symm h.symm hf' hf).symm
  · simp only [hf, hf', iff_true]
    exact run_eq_of_not_mem same h hf hf'

/-- Settings with two combinators and few patterns. -/
def shortRules : Settings :=
  { Settings.default with
    parallelCombinators := "a.x,a.y"
    handlerPatterns := "*/api/*"
    servicePatterns := "*_job.py" }

/-- The same combinators in another order. -/
def reordered : Settings := { shortRules with parallelCombinators := "a.y, a.x" }

theorem sameRules_reordered : shortRules.SameRules reordered := by
  have first : shortRules.combinators = ["a.x", "a.y"] := by decide +kernel
  have second : reordered.combinators = ["a.y", "a.x"] := by decide +kernel
  refine ⟨fun c => ?_, rfl, rfl⟩
  rw [first, second, List.mem_cons, List.mem_cons, List.mem_cons, List.mem_cons]
  exact or_left_comm

theorem run_eq_iff_of_message_eq_reordered :
    let message := CodeKey.message "x = 1\n" none shortRules.fingerprint
    let message' := CodeKey.message "x = 1\n" (some "") reordered.fingerprint
    (message = message' ∧ shortRules.Separable ∧ reordered.Separable) ∧
      run shortRules { code := "x = 1\n" } =
        run reordered { code := "x = 1\n", filename := some "" } := by
  have same : CodeKey.message "x = 1\n" none shortRules.fingerprint =
      CodeKey.message "x = 1\n" (some "") reordered.fingerprint := by
    rw [sameRules_reordered.fingerprint_eq]
    rfl
  have first : shortRules.Separable := ⟨by decide, by decide⟩
  have second : reordered.Separable := ⟨by decide, by decide⟩
  exact ⟨⟨same, first, second⟩, (run_eq_iff_of_message_eq same (.inr ⟨first, second⟩)).2 Iff.rfl⟩

/-! ## Where keys are not enough -/

/-- A handler with three awaits, the first two of which could run together. -/
def handlerFile : Request where
  code := "async def f():\n    a = await g()\n    b = await h()\n    return await k(a, b)\n"
  filename := some "api/x.py"

def barInServices : Settings :=
  { Settings.default with handlerPatterns := "*/api/*", servicePatterns := "*/jobs/*|*/old/*" }

def barInHandlers : Settings :=
  { Settings.default with handlerPatterns := "*/api/*|*/jobs/*", servicePatterns := "*/old/*" }

/-- A bar may end the handler patterns or belong to them: one message, and two outcomes. -/
theorem run_ne_with_one_message :
    CodeKey.message handlerFile.code handlerFile.filename barInServices.fingerprint =
        CodeKey.message handlerFile.code handlerFile.filename barInHandlers.fingerprint ∧
      run barInServices handlerFile ≠ run barInHandlers handlerFile := by
  constructor
  · have fingerprint : barInServices.fingerprint = barInHandlers.fingerprint := by
      rw [← String.toList_inj, Settings.toList_fingerprint, Settings.toList_fingerprint]
      rfl
    rw [fingerprint]
  · have eligible : eligibility barInServices handlerFile (Comment.scan handlerFile.code.toList) ≠
        eligibility barInHandlers handlerFile (Comment.scan handlerFile.code.toList) := by
      decide +kernel
    have parses : (parse handlerFile).isOk = true := by decide +kernel
    obtain ⟨tree, h⟩ := Grammar.exists_of_isOk parses
    rw [run, run, h]
    exact fun e => eligible (congrArg Outcome.eligibility (Except.ok.inj e))

end Analysis

end AwaitLint
