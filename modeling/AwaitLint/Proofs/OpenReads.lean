import AwaitLint.Proofs.MaximalRuns
import AwaitLint.Proofs.TopLevelSteps

/-! # Which reads split a run

An expression reads a name where it mentions the name for its value, unless a lambda or a comprehension
around the mention binds the name. A read is open if no lambda, comprehension, yield or inline assignment
stands around it. The collected names of an expression are those that it reads openly. So no step is in a
run with an earlier one that binds a name it reads openly; what it reads inside one of these constructs
does not split a run.
-/

namespace AwaitLint

namespace Node

def keywordValue? : Node → Option Node
  | keyword _ value => some value
  | _ => none

/-- The expressions that an expression needs the values of, as far as they are collected from. The entries
of a display are its pairs. -/
def operands : Node → List Node
  | attr value _ => [value]
  | subscript value index => [value, index]
  | call func args keywords => func :: args ++ keywords.filterMap keywordValue?
  | dict keys values => (keys.zip values).flatMap fun entry => [entry.1, entry.2]
  | sequence items => items
  | starred value => [value]
  | operation operands => operands
  | conditional test body other => [test, body, other]
  | await _ _ value => [value]
  | _ => []

mutual

/-- The expressions that have to be evaluated for a target to be bound: what stands before an attribute
or a subscript, and the index. -/
def targetOperands : Node → List Node
  | attr value _ => [value]
  | subscript value index => [value, index]
  | sequence items => targetOperandsAll items
  | starred value => value.targetOperands
  | _ => []

def targetOperandsAll : List Node → List Node
  | [] => []
  | x :: xs => x.targetOperands ++ targetOperandsAll xs

end

def clauseSource? : Node → Option Node
  | clause _ source _ => some source
  | _ => none

/-- What a clause evaluates for each element of its source. -/
def clauseOperands : Node → List Node
  | clause target _ conditions => target.targetOperands ++ conditions
  | _ => []

def clauseBinds : Node → List String
  | clause target _ _ => target.binds
  | _ => []

def parameterName? : Node → Option String
  | parameter id _ => some id
  | _ => none

/-- Expressions inside a yield, an inline assignment, a lambda or a comprehension that are evaluated with
the names around it: the defaults of a lambda, and what the first clause of a comprehension goes through. -/
def outerOperands : Node → List Node
  | yield value => [value]
  | walrus target value => target.targetOperands ++ [value]
  | lambda parameters _ => parameters.children
  | comprehension _ clauses => (clauses.filterMap clauseSource?).take 1
  | _ => []

/-- Expressions that are evaluated with the names that a lambda or a comprehension binds. -/
def innerOperands : Node → List Node
  | lambda _ body => [body]
  | comprehension results clauses =>
      results ++ clauses.flatMap clauseOperands ++ (clauses.filterMap clauseSource?).drop 1
  | _ => []

/-- The names that a lambda or a comprehension binds. -/
def locals : Node → List String
  | lambda parameters _ => parameters.children.filterMap parameterName?
  | comprehension _ clauses => clauses.flatMap clauseBinds
  | _ => []

/-- The expression reads the name `x`: it mentions `x` for its value, and no lambda or comprehension
around the mention binds `x`. -/
inductive Reads (x : String) : Node → Prop
  | name : Reads x (name x)
  | operand {n m : Node} (part : m ∈ n.operands) (read : Reads x m) : Reads x n
  | outer {n m : Node} (part : m ∈ n.outerOperands) (read : Reads x m) : Reads x n
  | inner {n m : Node} (part : m ∈ n.innerOperands) (free : x ∉ n.locals) (read : Reads x m) : Reads x n

/-- The expression reads the name `x` outside of lambdas, comprehensions, yields and inline
assignments. -/
inductive ReadsOpenly (x : String) : Node → Prop
  | name : ReadsOpenly x (name x)
  | operand {n m : Node} (part : m ∈ n.operands) (read : ReadsOpenly x m) : ReadsOpenly x n

theorem ReadsOpenly.reads {x : String} {n : Node} (h : n.ReadsOpenly x) : n.Reads x := by
  induction h with
  | name => exact .name
  | operand part _ ih => exact .operand part ih

/-! ## The collected names are those that are read openly -/

theorem readsEach_eq_map (xs : List Node) : readsEach xs = xs.map reads := by
  induction xs with
  | nil => rfl
  | cons x xs ih => rw [readsEach, ih, List.map_cons]

theorem readsKeywords_eq_flatMap (xs : List Node) :
    readsKeywords xs = (xs.filterMap keywordValue?).flatMap reads := by
  induction xs with
  | nil => rfl
  | cons x xs ih =>
    cases x with
    | keyword arg value => exact congrArg (value.reads ++ ·) ih
    | _ => exact ih

theorem flatten_zipWith_reads (keys values : List Node) :
    (List.zipWith (· ++ ·) (keys.map reads) (values.map reads)).flatten =
      ((keys.zip values).flatMap fun entry => [entry.1, entry.2]).flatMap reads := by
  induction keys generalizing values with
  | nil => rfl
  | cons key keys ih =>
    cases values with
    | nil => rfl
    | cons value values =>
      rw [List.map_cons, List.map_cons, List.zipWith_cons_cons, List.flatten_cons, ih,
        List.zip_cons_cons, List.flatMap_cons]
      simp

/-- A node that is no name itself mentions what its operands mention. -/
theorem reads_eq_flatMap {n : Node} (h : ∀ id, n ≠ name id) : n.reads = n.operands.flatMap reads := by
  cases n with
  | name id => exact absurd rfl (h id)
  | call func args keywords =>
    simp [reads, operands, readsEach_eq_map, readsKeywords_eq_flatMap, List.flatMap_def]
  | dict keys values => rw [reads, readsEach_eq_map, readsEach_eq_map, flatten_zipWith_reads, operands]
  | _ => simp [reads, operands, readsEach_eq_map, List.flatMap_def]

theorem sizeOf_lt_of_mem_operands {m n : Node} (h : m ∈ n.operands) : sizeOf m < sizeOf n := by
  cases n with
  | call func args keywords =>
    rcases List.mem_append.1 h with h | h
    · exact sizeOf_lt_of_mem_children (List.mem_append_left _ h)
    · -- the value of a keyword argument is a part of a part
      obtain ⟨k, hk, hm⟩ := List.mem_filterMap.1 h
      have hkey : sizeOf k < sizeOf (call func args keywords) :=
        sizeOf_lt_of_mem_children (List.mem_append_right _ hk)
      cases k with
      | keyword arg value =>
        obtain rfl := Option.some.inj hm
        exact Nat.lt_trans (sizeOf_lt_of_mem_children List.mem_cons_self) hkey
      | _ => simp [keywordValue?] at hm
  | dict keys values =>
    obtain ⟨entry, hentry, hm⟩ := List.mem_flatMap.1 h
    obtain ⟨hkey, hvalue⟩ := List.of_mem_zip hentry
    rcases List.mem_cons.1 hm with rfl | hm
    · exact sizeOf_lt_of_mem_children (List.mem_append_left _ hkey)
    · rw [List.mem_singleton.1 hm]
      exact sizeOf_lt_of_mem_children (List.mem_append_right _ hvalue)
  | attr | subscript | sequence | starred | operation | conditional | await => exact sizeOf_lt_of_mem_children h
  | _ => exact absurd h List.not_mem_nil

theorem ReadsOpenly.of_mem_reads {x : String} {n : Node} (h : x ∈ n.reads) : n.ReadsOpenly x := by
  by_cases hn : ∃ id, n = .name id
  · obtain ⟨id, rfl⟩ := hn
    obtain rfl := List.mem_singleton.1 h
    exact .name
  · rw [reads_eq_flatMap (not_exists.1 hn)] at h
    obtain ⟨m, hm, hx⟩ := List.mem_flatMap.1 h
    exact .operand hm (of_mem_reads hx)
termination_by sizeOf n
decreasing_by exact sizeOf_lt_of_mem_operands hm

/-- The collected names of an expression are those that it reads openly. -/
theorem mem_reads_iff {x : String} {n : Node} : x ∈ n.reads ↔ n.ReadsOpenly x := by
  refine ⟨.of_mem_reads, fun h => ?_⟩
  induction h with
  | name => exact List.mem_singleton.2 rfl
  | @operand n m part _ ih =>
    have hn : ∀ id, n ≠ name id := by
      rintro id rfl
      exact absurd part List.not_mem_nil
    rw [reads_eq_flatMap hn]
    exact List.mem_flatMap.2 ⟨m, part, ih⟩

end Node

/-! ## Steps that share a run -/

/-- In the runs of a scope, no step reads a name that an earlier step of its run binds, by this notion of
reading. -/
def Scope.RunsRespect (s : Scope) (reads : Node → String → Prop) : Prop :=
  ∀ run ∈ s.runs, run.Pairwise fun a b => ∀ x ∈ a.bound, ¬ reads b.value x

theorem Scope.runsRespect_readsOpenly (s : Scope) : s.RunsRespect fun n x => n.ReadsOpenly x := by
  intro run hrun
  have independent := (independentRuns_isRunSplit s.topLevel).independent run hrun
  refine independent.imp fun h x hx hread => h ?_
  exact ⟨x, Node.mem_reads_iff.2 hread, hx⟩

namespace Tracker

/-- When a walk leaves an outermost function, no step of a run reads a name openly that an earlier step of
the run binds. If no label occurs twice, every outermost function is left, and the steps that are cut into
runs are those of its body. -/
theorem run_splits_at_open_reads (cs : List String) (tree : Node) :
    ∃ t, ({} : Tracker).run ⟨[.waterfall, .runs], cs⟩ tree = (t, none) ∧
      (∀ s, (s, true) ∈ t.exits → s.RunsRespect fun n x => n.ReadsOpenly x) ∧
      (tree.root.Distinct → ∀ p ∈ tree.root.functions, p.owners = [] →
        ∃ s, (s, true) ∈ t.exits ∧ p.node.functionLabel? = some s.label ∧
          s.topLevel = p.node.steps) := by
  refine ⟨_, run_eq Watch.passive_both tree, fun s _ => s.runsRespect_readsOpenly, ?_⟩
  intro hd p hp ho
  have hmem : p ∈ tree.root.exitOrder := (Place.exitOrder_perm _).mem_iff.2 hp
  obtain ⟨⟨s, outermost⟩, he, exited⟩ := Place.exited_of_mem_exitOrder hd cs hmem
  obtain rfl : outermost = true := exited.outermost.2 ho
  refine ⟨s, ?_, exited.label, hd.topLevel_eq_steps (Place.mem_exitOrder.1 hmem).1 he⟩
  exact List.mem_filterMap.2 ⟨p, hmem, he⟩

theorem run_splits_at_open_reads_nestedSample :
    let tree := Node.nestedSample.labelled
    tree.root.Distinct ∧
    ∃ t, ({} : Tracker).run ⟨[.waterfall, .runs], defaultCombinators⟩ tree = (t, none) ∧
      (∀ s, (s, true) ∈ t.exits → s.RunsRespect fun n x => n.ReadsOpenly x) ∧
      ∀ p ∈ tree.root.functions, p.owners = [] →
        ∃ s, (s, true) ∈ t.exits ∧ p.node.functionLabel? = some s.label ∧
          s.topLevel = p.node.steps := by
  intro tree
  have hd : tree.root.Distinct := Node.labelled_distinct Node.nestedSample
  obtain ⟨t, hrun, respect, left⟩ := run_splits_at_open_reads defaultCombinators tree
  exact ⟨hd, t, hrun, respect, left hd⟩

end Tracker

/-! ## Reads that are not open -/

/-- Expressions that read `a`, each inside another construct: a comprehension, a lambda, a yield and an
inline assignment. -/
def Node.enclosedReads : List Node :=
  [.comprehension [.name "a"] [.clause (.name "_") (.name "xs") []],
    .lambda (.compound []) (.name "a"), .yield (.name "a"), .walrus (.name "c") (.name "a")]

/-- `a = await g()`, and then `b = await h(e)`. -/
def Node.twoSteps (e : Node) : Node :=
  let at? (line column : Int) : Span := ⟨line, column, none, none⟩
  .compound [.asyncDef 0 (at? 1 0) "f" [] (.compound []) .absent
    [.assign (at? 2 4) [.name "a"] (.await 1 (at? 2 8) (.call (.name "g") [] [])),
      .assign (at? 3 4) [.name "b"] (.await 2 (at? 3 8) (.call (.name "h") [e] []))]]

theorem Node.reads_of_mem_enclosedReads {e : Node} (h : e ∈ enclosedReads) : e.Reads "a" := by
  simp only [enclosedReads, List.mem_cons, List.not_mem_nil, or_false] at h
  rcases h with rfl | rfl | rfl | rfl
  · exact .inner List.mem_cons_self (by decide) .name
  · exact .inner List.mem_cons_self (by decide) .name
  · exact .outer List.mem_cons_self .name
  · exact .outer List.mem_cons_self .name

/-- Two steps share a run although the second one reads, inside any of these constructs, a name that the
first one binds. -/
theorem Tracker.run_ignores_enclosed_reads : Node.enclosedReads.Forall fun e =>
    ∃ t s, ({} : Tracker).run ⟨[.waterfall, .runs], defaultCombinators⟩ (.twoSteps e) = (t, none) ∧
      (s, true) ∈ t.exits ∧ ¬ s.RunsRespect fun n x => n.Reads x := by
  rw [List.forall_iff_forall_mem]
  intro e he
  have second : (Node.call (.name "h") [e] []).Reads "a" :=
    .operand (List.mem_cons_of_mem _ List.mem_cons_self) (Node.reads_of_mem_enclosedReads he)
  simp only [Node.enclosedReads, List.mem_cons, List.not_mem_nil, or_false] at he
  rcases he with rfl | rfl | rfl | rfl
  all_goals
    refine ⟨_, _, rfl, List.mem_cons_self, fun respect => ?_⟩
    have shared := respect _ List.mem_cons_self
    exact (List.pairwise_cons.1 shared).1 _ List.mem_cons_self "a" List.mem_cons_self second

end AwaitLint
