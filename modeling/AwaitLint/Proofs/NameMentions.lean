import AwaitLint.Proofs.OpenReads

/-! # The names that an expression mentions

A generic walk goes through all parts of a node, whatever its kind. The names that are collected from an
expression are those of the name nodes that such a walk meets, except for those below a lambda, a
comprehension, a yield or an inline assignment. Nothing else counts: the name of an attribute or of a
keyword argument is no name node, and neither is a constant.
-/

namespace AwaitLint

/-- A node that a generic walk meets, with the nodes above it, the nearest first. -/
structure Occurrence where
  node : Node
  above : List Node

namespace Node

/-- All nodes that a generic walk meets, the start first. -/
def occurrences (n : Node) : List Occurrence :=
  ⟨n, []⟩ :: n.children.attach.flatMap fun m =>
    m.1.occurrences.map fun o => ⟨o.node, o.above ++ [n]⟩
termination_by sizeOf n
decreasing_by exact sizeOf_lt_of_mem_children m.2

theorem mem_occurrences {n : Node} {o : Occurrence} : o ∈ n.occurrences ↔
    o = ⟨n, []⟩ ∨ ∃ m ∈ n.children, ∃ q ∈ m.occurrences, o = ⟨q.node, q.above ++ [n]⟩ := by
  rw [occurrences]
  simp [eq_comm]

theorem self_mem_occurrences (n : Node) : ⟨n, []⟩ ∈ n.occurrences := mem_occurrences.2 (.inl rfl)

/-- What is above a node on a walk is met on the same walk. -/
theorem exists_occurrence_of_mem_above {n a : Node} {o : Occurrence} (ho : o ∈ n.occurrences)
    (ha : a ∈ o.above) : ∃ q ∈ n.occurrences, q.node = a := by
  rcases mem_occurrences.1 ho with rfl | ⟨m, hm, q, hq, rfl⟩
  · exact absurd ha List.not_mem_nil
  · rcases List.mem_append.1 ha with ha | ha
    · obtain ⟨r, hr, rfl⟩ := exists_occurrence_of_mem_above hq ha
      exact ⟨_, mem_occurrences.2 (.inr ⟨m, hm, r, hr, rfl⟩), rfl⟩
    · obtain rfl := List.mem_singleton.1 ha
      exact ⟨_, self_mem_occurrences a, rfl⟩
termination_by sizeOf n
decreasing_by exact sizeOf_lt_of_mem_children hm

/-- Lambdas, comprehensions and generators, yields and inline assignments. -/
def isEnclosing : Node → Bool
  | lambda _ _ | comprehension _ _ | yield _ | walrus _ _ => true
  | _ => false

/-- A walk from the node meets the name `x` with no enclosing node above it. -/
def MentionsOpenly (n : Node) (x : String) : Prop :=
  ∃ o ∈ n.occurrences, o.node = name x ∧ ∀ a ∈ o.above, a.isEnclosing = false

theorem mentionsOpenly_iff {n : Node} {x : String} : n.MentionsOpenly x ↔
    n = name x ∨ n.isEnclosing = false ∧ ∃ m ∈ n.children, m.MentionsOpenly x := by
  constructor
  · rintro ⟨o, ho, hname, habove⟩
    rcases mem_occurrences.1 ho with rfl | ⟨m, hm, q, hq, rfl⟩
    · exact .inl hname
    · have hn : n.isEnclosing = false := habove n (List.mem_append_right _ List.mem_cons_self)
      exact .inr ⟨hn, m, hm, q, hq, hname, fun a ha => habove a (List.mem_append_left _ ha)⟩
  · rintro (rfl | ⟨hn, m, hm, q, hq, hname, habove⟩)
    · exact ⟨_, self_mem_occurrences _, rfl, by simp⟩
    · refine ⟨_, mem_occurrences.2 (.inr ⟨m, hm, q, hq, rfl⟩), hname, fun a ha => ?_⟩
      rcases List.mem_append.1 ha with ha | ha
      · exact habove a ha
      · exact List.mem_singleton.1 ha ▸ hn

/-- Expressions, and the gaps where one may be missing. Keyword arguments stand in calls only, and a display
has a value for each of its keys. What an enclosing node holds is left open. -/
inductive IsExpression : Node → Prop
  | absent : IsExpression absent
  | name (id : String) : IsExpression (name id)
  | constant : IsExpression constant
  | attr {value : Node} (field : String) (object : IsExpression value) : IsExpression (attr value field)
  | subscript {value index : Node} (object : IsExpression value) (key : IsExpression index) :
      IsExpression (subscript value index)
  | call {func : Node} {args keywords : List Node} (callee : IsExpression func)
      (positional : ∀ a ∈ args, IsExpression a) (named : ∀ k ∈ keywords, ∃ arg value, k = keyword arg value)
      (values : ∀ arg value, keyword arg value ∈ keywords → IsExpression value) :
      IsExpression (call func args keywords)
  | dict {keys values : List Node} (paired : keys.length = values.length)
      (left : ∀ k ∈ keys, IsExpression k) (right : ∀ v ∈ values, IsExpression v) :
      IsExpression (dict keys values)
  | sequence {items : List Node} (parts : ∀ i ∈ items, IsExpression i) : IsExpression (sequence items)
  | starred {value : Node} (part : IsExpression value) : IsExpression (starred value)
  | operation {operands : List Node} (parts : ∀ o ∈ operands, IsExpression o) :
      IsExpression (operation operands)
  | conditional {test body other : Node} (condition : IsExpression test) (first : IsExpression body)
      (second : IsExpression other) : IsExpression (conditional test body other)
  | await (label : Nat) (span : Span) {value : Node} (part : IsExpression value) :
      IsExpression (await label span value)
  | enclosing {n : Node} (kind : n.isEnclosing = true) : IsExpression n

/-- The operands of a display with as many keys as values are its keys and its values. -/
theorem mem_operands_dict {keys values : List Node} (h : keys.length = values.length) {m : Node} :
    m ∈ (dict keys values).operands ↔ m ∈ keys ∨ m ∈ values := by
  have left : (keys.zip values).map Prod.fst = keys := List.map_fst_zip (Nat.le_of_eq h)
  have right : (keys.zip values).map Prod.snd = values := List.map_snd_zip (Nat.le_of_eq h.symm)
  simp only [operands, List.mem_flatMap, List.mem_cons, List.not_mem_nil, or_false]
  constructor
  · rintro ⟨entry, hentry, rfl | rfl⟩
    · exact .inl (List.of_mem_zip hentry).1
    · exact .inr (List.of_mem_zip hentry).2
  · rintro (hm | hm)
    · rw [← left] at hm
      obtain ⟨entry, hentry, rfl⟩ := List.mem_map.1 hm
      exact ⟨entry, hentry, .inl rfl⟩
    · rw [← right] at hm
      obtain ⟨entry, hentry, rfl⟩ := List.mem_map.1 hm
      exact ⟨entry, hentry, .inr rfl⟩

/-- A keyword argument mentions what its value mentions. -/
theorem mentionsOpenly_keyword {arg : Option String} {value : Node} {x : String} :
    (keyword arg value).MentionsOpenly x ↔ value.MentionsOpenly x := by
  rw [mentionsOpenly_iff]
  simp [isEnclosing, children]

theorem mem_keywordValues {keywords : List Node} {v : Node} :
    v ∈ keywords.filterMap keywordValue? ↔ ∃ arg, keyword arg v ∈ keywords := by
  rw [List.mem_filterMap]
  constructor
  · rintro ⟨k, hk, hv⟩
    cases k with
    | keyword arg value =>
      obtain rfl := Option.some.inj hv
      exact ⟨arg, hk⟩
    | _ => simp [keywordValue?] at hv
  · rintro ⟨arg, hk⟩
    exact ⟨_, hk, rfl⟩

/-- Keyword arguments mention what their values mention. -/
theorem exists_keywordValue_iff {keywords : List Node} {x : String}
    (named : ∀ k ∈ keywords, ∃ arg value, k = keyword arg value) :
    (∃ v ∈ keywords.filterMap keywordValue?, v.MentionsOpenly x) ↔
      ∃ k ∈ keywords, k.MentionsOpenly x := by
  constructor
  · rintro ⟨v, hv, hx⟩
    obtain ⟨arg, hk⟩ := mem_keywordValues.1 hv
    exact ⟨_, hk, mentionsOpenly_keyword.2 hx⟩
  · rintro ⟨k, hk, hx⟩
    obtain ⟨arg, v, rfl⟩ := named k hk
    exact ⟨v, mem_keywordValues.2 ⟨arg, hk⟩, mentionsOpenly_keyword.1 hx⟩

theorem reads_of_isEnclosing {n : Node} (h : n.isEnclosing = true) : n.reads = [] := by
  cases n with
  | lambda | comprehension | yield | walrus => rfl
  | _ => simp [isEnclosing] at h

/-- The collector agrees with a generic walk at a node if it does so at the operands, and if a walk through
all parts finds no more than one through the operands. -/
theorem mem_reads_iff_of_operands {n : Node} {x : String} (hname : ∀ id, n ≠ name id)
    (hopen : n.isEnclosing = false) (ih : ∀ m ∈ n.operands, (x ∈ m.reads ↔ m.MentionsOpenly x))
    (hparts : (∃ m ∈ n.operands, m.MentionsOpenly x) ↔ ∃ m ∈ n.children, m.MentionsOpenly x) :
    x ∈ n.reads ↔ n.MentionsOpenly x := by
  calc
    x ∈ n.reads ↔ ∃ m ∈ n.operands, x ∈ m.reads := by rw [reads_eq_flatMap hname, List.mem_flatMap]
    _ ↔ ∃ m ∈ n.operands, m.MentionsOpenly x :=
      exists_congr fun m => and_congr_right fun hm => ih m hm
    _ ↔ ∃ m ∈ n.children, m.MentionsOpenly x := hparts
    _ ↔ n.MentionsOpenly x := by simp [mentionsOpenly_iff (n := n), hname, hopen]

/-- From an expression, the collector finds what a generic walk finds in the open. -/
theorem IsExpression.mem_reads_iff_mentionsOpenly {e : Node} (h : e.IsExpression) {x : String} :
    x ∈ e.reads ↔ e.MentionsOpenly x := by
  induction h with
  | absent | constant =>
    rw [mentionsOpenly_iff]
    simp [reads, children]
  | name id =>
    rw [mentionsOpenly_iff, reads, List.mem_singleton]
    simp [children, eq_comm (a := x)]
  | attr field _ ih | starred _ ih | await _ _ _ ih =>
    exact mem_reads_iff_of_operands (by simp) rfl (List.forall_mem_singleton.2 ih) Iff.rfl
  | subscript _ _ ihv ihi =>
    refine mem_reads_iff_of_operands (by simp) rfl ?_ Iff.rfl
    exact List.forall_mem_cons.2 ⟨ihv, List.forall_mem_singleton.2 ihi⟩
  | sequence _ ih | operation _ ih => exact mem_reads_iff_of_operands (by simp) rfl ih Iff.rfl
  | conditional _ _ _ iht ihb iho =>
    refine mem_reads_iff_of_operands (by simp) rfl ?_ Iff.rfl
    exact List.forall_mem_cons.2 ⟨iht, List.forall_mem_cons.2 ⟨ihb, List.forall_mem_singleton.2 iho⟩⟩
  | @call func args keywords _ _ named _ ihf iha ihv =>
    refine mem_reads_iff_of_operands (by simp) rfl ?_ ?_
    · refine List.forall_mem_cons.2 ⟨ihf, fun m hm => ?_⟩
      rcases List.mem_append.1 hm with hm | hm
      · exact iha m hm
      · obtain ⟨arg, hk⟩ := mem_keywordValues.1 hm
        exact ihv arg m hk
    · simp only [operands, children, List.mem_append, List.mem_cons, or_and_right, exists_or,
        exists_keywordValue_iff named]
  | @dict keys values paired _ _ ihk ihv =>
    refine mem_reads_iff_of_operands (by simp) rfl ?_ ?_
    · intro m hm
      exact ((mem_operands_dict paired).1 hm).elim (ihk m) (ihv m)
    · simp only [mem_operands_dict paired, children, List.mem_append]
  | @enclosing n kind =>
    rw [reads_of_isEnclosing kind, mentionsOpenly_iff]
    have hname : n ≠ .name x := by
      rintro rfl
      simp [isEnclosing] at kind
    simp [kind, hname]

/-- The collected names of an expression are the names that a generic walk meets with no enclosing node
above them. If the expression has no enclosing nodes, they are all names that the walk meets. A text that is
no name node of the expression is not collected, so the names of attributes and of keyword arguments and
the constants never contribute. -/
theorem reads_are_open_names {e : Node} (h : e.IsExpression) :
    (∀ x, x ∈ e.reads ↔
      ∃ o ∈ e.occurrences, o.node = name x ∧ ∀ a ∈ o.above, a.isEnclosing = false) ∧
    ((∀ o ∈ e.occurrences, o.node.isEnclosing = false) →
      ∀ x, x ∈ e.reads ↔ ∃ o ∈ e.occurrences, o.node = name x) ∧
    ∀ x, (∀ o ∈ e.occurrences, o.node ≠ name x) → x ∉ e.reads := by
  have collected : ∀ x, x ∈ e.reads ↔ e.MentionsOpenly x := fun x => h.mem_reads_iff_mentionsOpenly
  refine ⟨collected, fun hopen x => ?_, fun x hno hx => ?_⟩
  · rw [collected]
    refine exists_congr fun o => and_congr_right fun ho => and_iff_left fun a ha => ?_
    obtain ⟨q, hq, rfl⟩ := exists_occurrence_of_mem_above ho ha
    exact hopen q hq
  · obtain ⟨o, ho, hname, -⟩ := (collected x).1 hx
    exact hno o ho hname

/-- `obj.field[low::step]` -/
def openSample : Node :=
  .subscript (.attr (.name "obj") "field") (.operation [.name "low", .absent, .name "step"])

/-- `f(obj.field[low::step], *rest, option={**more, key: 1}, **(lambda: hidden))` -/
def callSample : Node :=
  .call (.name "f") [openSample, .starred (.name "rest")]
    [.keyword (some "option") (.dict [.absent, .name "key"] [.name "more", .constant]),
      .keyword none (.lambda (.compound []) (.name "hidden"))]

theorem isExpression_openSample : openSample.IsExpression := by
  refine .subscript (.attr _ (.name _)) (.operation ?_)
  simp [IsExpression.name, IsExpression.absent]

theorem isExpression_callSample : callSample.IsExpression := by
  have display : (dict [absent, name "key"] [name "more", constant]).IsExpression :=
    .dict rfl (by simp [IsExpression.name, IsExpression.absent])
      (by simp [IsExpression.name, IsExpression.constant])
  refine .call (.name _) ?_ (by simp) ?_
  · simp [isExpression_openSample, IsExpression.starred, IsExpression.name]
  · simp only [List.mem_cons, keyword.injEq, List.not_mem_nil, or_false]
    rintro arg value (⟨-, rfl⟩ | ⟨-, rfl⟩)
    · exact display
    · exact .enclosing rfl

theorem reads_are_open_names_callSample :
    callSample.IsExpression ∧
    (∀ x, x ∈ callSample.reads ↔
      ∃ o ∈ callSample.occurrences, o.node = name x ∧ ∀ a ∈ o.above, a.isEnclosing = false) ∧
    (∀ x, (∀ o ∈ callSample.occurrences, o.node ≠ name x) → x ∉ callSample.reads) ∧
    openSample.IsExpression ∧ (∀ o ∈ openSample.occurrences, o.node.isEnclosing = false) ∧
    ∀ x, x ∈ openSample.reads ↔ ∃ o ∈ openSample.occurrences, o.node = name x := by
  have hopen : ∀ o ∈ openSample.occurrences, o.node.isEnclosing = false := by decide +kernel
  obtain ⟨collected, -, only⟩ := reads_are_open_names isExpression_callSample
  obtain ⟨-, all, -⟩ := reads_are_open_names isExpression_openSample
  exact ⟨isExpression_callSample, collected, only, isExpression_openSample, hopen, all hopen⟩

end Node

end AwaitLint
