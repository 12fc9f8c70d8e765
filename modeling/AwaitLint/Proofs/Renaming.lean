import AwaitLint.Proofs.Attribution
import AwaitLint.Proofs.MaximalRuns
import Mathlib.Logic.Embedding.Basic

/-! # Findings do not depend on how names are spelled

A renaming gives different names to different names. It is applied to the names that are read or bound
and to those that patterns capture; attributes, keywords, parameters and spans stay. The names that are
read and written are then renamed too, so two steps depend on each other as before. If the renaming also
keeps the combinators apart from other calls, a walk reports the same findings.
-/

namespace AwaitLint

/-- Different names for different names; the empty text is no name. -/
structure Renaming where
  map : { n : String // n ≠ "" } ↪ { n : String // n ≠ "" }

namespace Renaming

/-- The new name for a text, if it is a name at all. -/
def apply (r : Renaming) (n : String) : String := if h : n = "" then "" else r.map ⟨n, h⟩

/-- A renamed attribute call is a combinator exactly if it was one before. -/
def Keeps (r : Renaming) (combinators : List String) : Prop :=
  ∀ (n : { n : String // n ≠ "" }) (field : String),
    n ++ "." ++ field ∈ combinators ↔ r.map n ++ "." ++ field ∈ combinators

theorem apply_of_ne {r : Renaming} {n : String} (h : n ≠ "") : r.apply n = r.map ⟨n, h⟩ := dif_neg h

theorem apply_eq_empty {r : Renaming} {n : String} : r.apply n = "" ↔ n = "" := by
  unfold apply
  split
  · simp_all
  · next h => exact ⟨fun e => absurd e (r.map ⟨n, h⟩).2, fun e => absurd e h⟩

theorem apply_injective (r : Renaming) : Function.Injective r.apply := by
  intro m n h
  by_cases hm : m = ""
  · subst hm
    exact (apply_eq_empty.1 (h.symm.trans (apply_eq_empty.2 rfl))).symm
  · have hn : n ≠ "" := fun e => hm (apply_eq_empty.1 (h.trans (apply_eq_empty.2 e)))
    rw [apply_of_ne hm, apply_of_ne hn] at h
    exact congrArg Subtype.val (r.map.injective (Subtype.ext h))

theorem Keeps.contains {r : Renaming} {cs : List String} (h : r.Keeps cs) (n field : String) :
    cs.contains (r.apply n ++ "." ++ field) = cs.contains (n ++ "." ++ field) := by
  by_cases hn : n = ""
  · rw [hn, apply_eq_empty.2 rfl]
  · rw [Bool.eq_iff_iff, List.contains_iff_mem, List.contains_iff_mem, apply_of_ne hn]
    exact (h ⟨n, hn⟩ field).symm

end Renaming

namespace Node
variable (r : Renaming)

mutual

/-- The tree with new names for those that are read or bound and for those that patterns capture. -/
def rename : Node → Node
  | name id => name (r.apply id)
  | capture id pattern => capture (id.map r.apply) pattern.rename
  | captureRest id => captureRest (id.map r.apply)
  | mappingPattern keys parts rest =>
      mappingPattern (renameAll keys) (renameAll parts) (rest.map r.apply)
  | absent => absent
  | constant => constant
  | attr value field => attr value.rename field
  | subscript value index => subscript value.rename index.rename
  | call func args keywords => call func.rename (renameAll args) (renameAll keywords)
  | keyword arg value => keyword arg value.rename
  | dict keys values => dict (renameAll keys) (renameAll values)
  | sequence items => sequence (renameAll items)
  | starred value => starred value.rename
  | operation operands => operation (renameAll operands)
  | conditional test body other => conditional test.rename body.rename other.rename
  | await label span value => await label span value.rename
  | yield value => yield value.rename
  | walrus target value => walrus target.rename value.rename
  | lambda parameters body => lambda parameters.rename body.rename
  | comprehension results clauses => comprehension (renameAll results) (renameAll clauses)
  | clause target source conditions => clause target.rename source.rename (renameAll conditions)
  | parameter id typeExpr => parameter id typeExpr.rename
  | patterns parts => patterns (renameAll parts)
  | classPattern cls parts attrs attrParts =>
      classPattern cls.rename (renameAll parts) attrs (renameAll attrParts)
  | valuePattern value => valuePattern value.rename
  | asyncDef label span id decorators parameters returns body =>
      asyncDef label span id (renameAll decorators) parameters.rename returns.rename (renameAll body)
  | assign span targets value => assign span (renameAll targets) value.rename
  | annAssign span target typeExpr value => annAssign span target.rename typeExpr.rename value.rename
  | exprStmt span value => exprStmt span value.rename
  | compound parts => compound (renameAll parts)

def renameAll : List Node → List Node
  | [] => []
  | x :: xs => x.rename :: renameAll xs

end

@[simp] theorem renameAll_eq_map (xs : List Node) : renameAll r xs = xs.map (rename r) := by
  induction xs with
  | nil => rfl
  | cons x xs ih => rw [renameAll, ih, List.map_cons]

/-! ## Names that are read, bound and written -/

mutual

theorem reads_rename (n : Node) : (n.rename r).reads = n.reads.map r.apply := by
  cases n with
  | name id => rfl
  | attr value field => exact reads_rename value
  | subscript value index => simp only [rename, reads, List.map_append, reads_rename]
  | call func args keywords =>
    simp only [rename, reads, List.map_append, List.map_flatten, reads_rename, readsEach_rename,
      readsKeywords_rename]
  | dict keys values =>
    simp only [rename, reads, readsEach_rename, List.map_flatten, List.map_zipWith, List.zipWith_map,
      List.map_append]
  | sequence items => simp only [rename, reads, readsEach_rename, List.map_flatten]
  | starred value => exact reads_rename value
  | operation operands => simp only [rename, reads, readsEach_rename, List.map_flatten]
  | conditional test body other => simp only [rename, reads, List.map_append, reads_rename]
  | await label span value => exact reads_rename value
  | _ => rfl

theorem readsEach_rename (xs : List Node) :
    readsEach (renameAll r xs) = (readsEach xs).map (List.map r.apply) := by
  cases xs with
  | nil => rfl
  | cons x xs => simp only [renameAll, readsEach, reads_rename, readsEach_rename, List.map_cons]

theorem readsKeywords_rename (xs : List Node) :
    readsKeywords (renameAll r xs) = (readsKeywords xs).map r.apply := by
  cases xs with
  | nil => rfl
  | cons x xs =>
    cases x with
    | keyword arg value =>
      simp only [renameAll, rename, readsKeywords, reads_rename, readsKeywords_rename, List.map_append]
    | _ => exact readsKeywords_rename xs

end

theorem captured_map (id : Option String) :
    captured (id.map r.apply) = (captured id).map r.apply := by
  cases id with
  | none => rfl
  | some n => by_cases h : n = "" <;> simp [captured, h, Renaming.apply_eq_empty]

mutual

theorem binds_rename (n : Node) : (n.rename r).binds = n.binds.map r.apply := by
  cases n with
  | name id => rfl
  | sequence items => exact bindsAll_rename items
  | starred value => exact binds_rename value
  | capture id pattern => simp only [rename, binds, captured_map, binds_rename, List.map_append]
  | captureRest id => exact captured_map r id
  | patterns parts => exact bindsAll_rename parts
  | mappingPattern keys parts rest =>
    simp only [rename, binds, captured_map, bindsAll_rename, List.map_append]
  | classPattern cls parts attrs attrParts =>
    simp only [rename, binds, bindsAll_rename, List.map_append]
  | _ => rfl

theorem bindsAll_rename (xs : List Node) :
    bindsAll (renameAll r xs) = (bindsAll xs).map r.apply := by
  cases xs with
  | nil => rfl
  | cons x xs => simp only [renameAll, bindsAll, binds_rename, bindsAll_rename, List.map_append]

end

mutual

theorem writes_rename (n : Node) : (n.rename r).writes = n.writes.map r.apply := by
  cases n with
  | sequence items => exact writesAll_rename items
  | starred value => exact writes_rename value
  | attr value field => exact reads_rename r value
  | subscript value index => exact reads_rename r value
  | _ => exact binds_rename r _

theorem writesAll_rename (xs : List Node) :
    writesAll (renameAll r xs) = (writesAll xs).map r.apply := by
  cases xs with
  | nil => rfl
  | cons x xs => simp only [renameAll, writesAll, writes_rename, writesAll_rename, List.map_append]

end

/-! ## The shape of a renamed tree -/

theorem outerParts_rename (n : Node) : (n.rename r).outerParts = n.outerParts.map (rename r) := by
  cases n <;> simp [rename, outerParts, children]

theorem innerParts_rename (n : Node) : (n.rename r).innerParts = n.innerParts.map (rename r) := by
  cases n <;> simp [rename, innerParts]

@[simp] theorem functionLabel?_rename (n : Node) : (n.rename r).functionLabel? = n.functionLabel? := by
  cases n <;> rfl

theorem await?_rename (n : Node) :
    (n.rename r).await? = n.await?.map fun a => (a.1, a.2.1, a.2.2.rename r) := by
  cases n <;> rfl

theorem own_rename (n : Node) : (n.rename r).own = n.own.map (rename r) := by
  induction n using inductionOnParts with
  | step n outer _ =>
    rw [own_eq, own_eq, outerParts_rename, List.map_cons, List.flatMap_map, List.map_flatMap]
    exact congrArg _ (List.flatMap_congr outer)

theorem isCombinatorCall_rename {cs : List String} (h : r.Keeps cs) (n : Node) :
    isCombinatorCall cs (n.rename r) = isCombinatorCall cs n := by
  cases n with
  | call func args keywords =>
    cases func with
    | attr value field =>
      cases value with
      | name id => exact h.contains id field
      | _ => rfl
    | _ => rfl
  | _ => rfl

end Node

/-! ## Runs of renamed steps -/

section
variable {α : Type} {bound refs : α → List String} {f : String → String} {g : α → α}

theorem dependsOn_map (hf : Function.Injective f) (rs bs : List String) :
    dependsOn (rs.map f) (bs.map f) = dependsOn rs bs := by
  rw [Bool.eq_iff_iff, dependsOn_iff, dependsOn_iff]
  constructor
  · rintro ⟨n, hr, hb⟩
    obtain ⟨m, hm, rfl⟩ := List.mem_map.1 hr
    exact ⟨m, hm, (List.mem_map_of_injective hf).1 hb⟩
  · rintro ⟨n, hr, hb⟩
    exact ⟨f n, List.mem_map_of_mem hr, List.mem_map_of_mem hb⟩

variable (hf : Function.Injective f) (hbound : ∀ x, bound (g x) = (bound x).map f)
  (hrefs : ∀ x, refs (g x) = (refs x).map f)

include hf hbound hrefs

theorem takeRun_map (names : List String) (xs : List α) :
    takeRun bound refs (names.map f) (xs.map g) =
      (takeRun bound refs names xs).map (List.map g) (List.map g) := by
  induction xs generalizing names with
  | nil => rfl
  | cons x xs ih =>
    rw [List.map_cons, takeRun, takeRun, hrefs, hbound, dependsOn_map hf, ← List.map_append, ih]
    split <;> rfl

theorem runsWithin_map (fuel : Nat) (xs : List α) :
    runsWithin bound refs fuel (xs.map g) = (runsWithin bound refs fuel xs).map (List.map g) := by
  induction fuel generalizing xs with
  | zero => rfl
  | succ fuel ih =>
    cases xs with
    | nil => rfl
    | cons x xs =>
      rw [List.map_cons, runsWithin, runsWithin, hbound, takeRun_map hf hbound hrefs]
      exact congrArg (_ :: ·) (ih _)

theorem independentRuns_map (xs : List α) :
    independentRuns bound refs (xs.map g) = (independentRuns bound refs xs).map (List.map g) := by
  rw [independentRuns, List.length_map]
  exact runsWithin_map hf hbound hrefs _ xs

end

/-! ## Scopes of a renamed tree -/

section
variable (r : Renaming)

def Operation.rename (o : Operation) : Operation :=
  { o with value := o.value.rename r, bound := o.bound.map r.apply }

theorem Operation.refs_rename (o : Operation) : (o.rename r).refs = o.refs.map r.apply :=
  o.value.reads_rename r

def Qualified.rename (q : Qualified) : Qualified := { q with bound := q.bound.map r.apply }

theorem Node.awaitedBinding?_rename (n : Node) : (n.rename r).awaitedBinding? =
    n.awaitedBinding?.map fun b => (b.1, { b.2 with bound := b.2.bound.map r.apply }) := by
  cases n with
  | assign span targets value =>
    cases value with
    | await label s value => simp only [rename, awaitedBinding?, writesAll_rename, Option.map_some]
    | _ => rfl
  | annAssign span target typeExpr value =>
    cases value with
    | await label s value => simp only [rename, awaitedBinding?, writes_rename, Option.map_some]
    | _ => rfl
  | exprStmt span value => cases value <;> rfl
  | _ => rfl

namespace Scope

def rename (s : Scope) : Scope :=
  { s with
    qualifying := s.qualifying.map (Qualified.rename r)
    operations := s.operations.map (Operation.rename r) }

theorem qualified_rename (body : List Node) :
    qualified (body.map (Node.rename r)) = (qualified body).map (Qualified.rename r) := by
  rw [qualified, qualified, List.filterMap_map, List.map_filterMap]
  refine List.filterMap_congr fun n _ => ?_
  simp only [Function.comp_apply, Node.awaitedBinding?_rename, Option.map_map]
  rfl

theorem opened_rename (label : Nat) (name : String) (body : List Node) :
    opened label name (body.map (Node.rename r)) = (opened label name body).rename r := by
  simp [opened, rename, qualified_rename]

theorem operation_rename (s : Scope) (label : Nat) (span : Span) (value : Node) :
    (s.rename r).operation label span (value.rename r) =
      (s.operation label span value).rename r := by
  have found : ((s.rename r).qualifying.reverse.find? fun q => q.label == label) =
      (s.qualifying.reverse.find? fun q => q.label == label).map (Qualified.rename r) := by
    rw [rename, ← List.map_reverse, List.find?_map]
    rfl
  rw [operation, operation, found]
  cases s.qualifying.reverse.find? fun q => q.label == label <;> rfl

theorem absorb_rename {cs : List String} (h : r.Keeps cs) (ns : List Node) (s : Scope) :
    (s.rename r).absorb cs (ns.map (Node.rename r)) = (s.absorb cs ns).rename r := by
  have awaits : (ns.map (Node.rename r)).filterMap Node.await? =
      (ns.filterMap Node.await?).map fun a => (a.1, a.2.1, a.2.2.rename r) := by
    rw [List.filterMap_map, List.map_filterMap]
    exact List.filterMap_congr fun n _ => n.await?_rename r
  have calls : (ns.map (Node.rename r)).any (isCombinatorCall cs) = ns.any (isCombinatorCall cs) := by
    rw [List.any_map]
    exact congrArg ns.any (funext fun n => Node.isCombinatorCall_rename r h n)
  simp only [absorb, awaits, calls, List.map_map]
  simp only [rename, List.map_append, List.map_map]
  congr 2
  refine List.map_congr_left fun a _ => operation_rename r s a.1 a.2.1 a.2.2

theorem topLevel_rename (s : Scope) :
    (s.rename r).topLevel = s.topLevel.map (Operation.rename r) := by
  rw [topLevel, topLevel, rename, List.filter_map]
  rfl

theorem runs_rename (s : Scope) : (s.rename r).runs = s.runs.map (List.map (Operation.rename r)) := by
  have hbound : ∀ o, (Operation.rename r o).bound = o.bound.map r.apply := fun _ => rfl
  rw [runs, topLevel_rename]
  exact independentRuns_map r.apply_injective hbound (Operation.refs_rename r) s.topLevel

end Scope

theorem waterfallReport_rename (s : Scope) (outermost : Bool) :
    waterfallReport (s.rename r) outermost = waterfallReport s outermost := by
  simp only [waterfallReport, Scope.rename, List.getElem?_map]
  cases s.operations[waterfallThreshold - 1]? <;> rfl

theorem runsReport_rename (s : Scope) (outermost : Bool) :
    runsReport (s.rename r) outermost = runsReport s outermost := by
  simp only [runsReport, Scope.runs_rename, List.filterMap_map]
  congr 1
  refine List.filterMap_congr fun run _ => ?_
  simp only [Function.comp_apply, List.getElem?_map]
  cases run[1]? <;> rfl

namespace Place

def rename (p : Place) : Place := ⟨p.node.rename r, p.owners⟩

theorem parts_rename (p : Place) : (p.rename r).parts = p.parts.map (rename r) := by
  simp [parts, rename, Node.outerParts_rename, Node.innerParts_rename, Function.comp_def]

theorem exitOrder_rename (p : Place) : (p.rename r).exitOrder = p.exitOrder.map (rename r) := by
  induction p using inductionOnParts with
  | step p ih =>
    rw [exitOrder_eq, exitOrder_eq, parts_rename, List.map_append, List.flatMap_map, List.map_flatMap,
      List.flatMap_congr ih]
    congr 1
    simp only [rename, Node.functionLabel?_rename]
    split <;> rfl

theorem exit?_rename {cs : List String} (h : r.Keeps cs) (p : Place) :
    (p.rename r).exit? cs = (p.exit? cs).map fun e => (e.1.rename r, e.2) := by
  obtain ⟨n, owners⟩ := p
  cases n with
  | asyncDef label span id decorators parameters returns body =>
    have own : (body.map (Node.rename r)).flatMap Node.own =
        (body.flatMap Node.own).map (Node.rename r) := by
      rw [List.flatMap_map, List.map_flatMap]
      exact List.flatMap_congr fun n _ => n.own_rename r
    simp only [exit?, rename, Node.rename, Node.closedScope?, Node.renameAll_eq_map, own,
      Scope.opened_rename, Scope.absorb_rename r h, Option.map_some]
  | _ => rfl

end Place

/-- A walk with both rules over a tree and one over the renamed tree report the same findings, in the same
order. -/
theorem Tracker.run_rename (cs : List String) (h : r.Keeps cs) (tree : Node) :
    ∃ t t', ({} : Tracker).run ⟨[.waterfall, .runs], cs⟩ tree = (t, none) ∧
      ({} : Tracker).run ⟨[.waterfall, .runs], cs⟩ (tree.rename r) = (t', none) ∧
      t'.diagnostics = t.diagnostics := by
  refine ⟨_, _, run_eq Watch.passive_both tree, run_eq Watch.passive_both (tree.rename r), ?_⟩
  have root : (tree.rename r).root = tree.root.rename r := rfl
  have exits : (tree.rename r).root.exitOrder.filterMap (Place.exit? cs) =
      (tree.root.exitOrder.filterMap (Place.exit? cs)).map fun e => (e.1.rename r, e.2) := by
    rw [root, Place.exitOrder_rename, List.filterMap_map, List.map_filterMap]
    exact List.filterMap_congr fun p _ => p.exit?_rename r h
  simp only [after, exits, List.flatMap_map]
  refine congrArg _ (List.flatMap_congr fun e _ => ?_)
  simp only [Watch.reports, Policy.waterfall, Policy.runs, Policy.report_ofReport, List.flatMap_cons,
    List.flatMap_nil, waterfallReport_rename, runsReport_rename]

end

/-- The names `a` and `b` change places. -/
def Renaming.swapped : Renaming := ⟨(Equiv.swap ⟨"a", by decide⟩ ⟨"b", by decide⟩).toEmbedding⟩

theorem Renaming.keeps_swapped : swapped.Keeps defaultCombinators := by
  have short (c : Char) (field : String) :
      String.ofList [c] ++ "." ++ field ∉ defaultCombinators := by
    intro h
    simp [defaultCombinators, ← String.toList_inj] at h
  intro n field
  change _ ↔ (Equiv.swap ⟨"a", _⟩ ⟨"b", _⟩ n).1 ++ "." ++ field ∈ defaultCombinators
  by_cases ha : n = ⟨"a", by decide⟩
  · rw [ha, Equiv.swap_apply_left]
    exact iff_of_false (short 'a' field) (short 'b' field)
  by_cases hb : n = ⟨"b", by decide⟩
  · rw [hb, Equiv.swap_apply_right]
    exact iff_of_false (short 'b' field) (short 'a' field)
  rw [Equiv.swap_apply_of_ne_of_ne ha hb]

theorem Tracker.run_rename_nestedSample :
    Renaming.swapped.Keeps defaultCombinators ∧
    ∃ t t',
      ({} : Tracker).run ⟨[.waterfall, .runs], defaultCombinators⟩ Node.nestedSample = (t, none) ∧
      ({} : Tracker).run ⟨[.waterfall, .runs], defaultCombinators⟩
        (Node.nestedSample.rename Renaming.swapped) = (t', none) ∧
      t'.diagnostics = t.diagnostics :=
  ⟨Renaming.keeps_swapped, run_rename _ _ Renaming.keeps_swapped _⟩

end AwaitLint
