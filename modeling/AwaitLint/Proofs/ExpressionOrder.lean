import AwaitLint.Proofs.FormattedOrder

/-! # Expressions in the order of the text

Every rule for expressions reads trees that lie in turn. Most nodes have their parts in the order in which they were
read; the others are those that swap parts.
-/

namespace AwaitLint.Grammar

open AwaitLint.Node (Lies LieInTurn ArgumentsLie ParametersLie)
open AwaitLint.Grammar.Parser

/-- A parser for an expression. -/
abbrev Parser.ReadsValue (p : Parser Node) : Prop := Reads (fun n => n.isValue = true) p

/-- The smaller rules read trees that lie in turn. -/
structure Rules.Sound (r : Rules) : Prop where
  expression : ReadsValue r.expression
  disjunction : ReadsValue r.disjunction
  inversion : ReadsValue r.inversion
  bitOr : ReadsValue r.bitOr
  factor : ReadsValue r.factor
  primary : ReadsValue r.primary
  pattern : Reads (fun _ => True) r.pattern
  block : Brings (fun ns => ns) (fun ns => ns ≠ [] ∧ ∀ n ∈ ns, n.isStatement = true) r.block

section

variable {lo hi : Position} {ns : List Node} {n : Node}

/-- A node whose parts have been read in order. -/
theorem readIn (turn : LieInTurn lo hi ns) (await : n.await? = none) (inner : n.innerParts = [])
    (outer : n.outerParts = ns) : LieInTurn lo hi [n] :=
  .singleton (.of_parts await inner (outer ▸ turn))

theorem lies_tupleIf {items : List Node × Bool} (turn : LieInTurn lo hi items.1)
    (values : ∀ n ∈ items.1, n.isValue = true) : LieInTurn lo hi [tupleIf items] ∧ (tupleIf items).isValue = true := by
  unfold tupleIf
  split
  · next x => exact ⟨turn, values x (by simp)⟩
  · exact ⟨readIn turn rfl rfl rfl, rfl⟩

theorem lies_dictOf {items : List (Node × Node)} (turn : LieInTurn lo hi (items.flatMap fun p => [p.1, p.2])) :
    LieInTurn lo hi [dictOf items] := by
  refine .singleton (.of_pairs rfl rfl rfl (fun i j hi hj => ?_) turn)
  have hlength : (items.map Prod.fst).length = items.length := List.length_map _
  rw [← hlength] at hi ⊢
  exact .pair hi hj

end

/-- Arguments read so far. Without a spread mapping all keyword arguments are named, and without a named argument there
is none. -/
structure ArgumentsRead (lo hi : Position) (a : Arguments) : Prop where
  lie : ArgumentsLie lo hi a.positional.reverse a.keywords.reverse
  named : a.spread = false → ∀ k ∈ a.keywords, k.isNamedArgument = true
  none : a.named = false → a.spread = false → a.keywords = []

namespace ArgumentsRead

variable {lo mid hi : Position} {a : Arguments} {x : Node}

theorem empty (lo : Position) : ArgumentsRead lo lo {} :=
  ⟨⟨le_refl lo, le_refl lo, by simp⟩, by simp, by simp⟩

theorem mono (h : ArgumentsRead lo mid a) (hhi : mid ≤ hi) : ArgumentsRead lo hi a :=
  ⟨h.lie.mono le_rfl hhi, h.named, h.none⟩

theorem keyword (h : ArgumentsRead lo mid a) (hx : Lies mid hi x) :
    ArgumentsLie lo hi a.positional.reverse (x :: a.keywords).reverse where
  positional := h.lie.positional.mono le_rfl hx.le
  others := by
    rw [List.reverse_cons]
    exact h.lie.others.snoc hx
  mixed c hc d hd := by
    rw [List.reverse_cons, List.mem_append, List.mem_singleton] at hd
    rcases hd with hd | rfl
    · exact h.lie.mixed c hc d hd
    · exact .inr ((h.lie.positional.of_mem hc).before hx)

theorem positional (h : ArgumentsRead lo mid a) (hx : Lies mid hi x)
    (swapped : ∀ k ∈ a.keywords, isStarred x = true ∧ k.isNamedArgument = true) :
    ArgumentsLie lo hi (x :: a.positional).reverse a.keywords.reverse where
  positional := by
    rw [List.reverse_cons]
    exact h.lie.positional.snoc hx
  others := h.lie.others.mono le_rfl hx.le
  mixed c hc d hd := by
    rw [List.reverse_cons, List.mem_append, List.mem_singleton] at hc
    rcases hc with hc | rfl
    · exact h.lie.mixed c hc d hd
    · exact .inl (swapped d (List.mem_reverse.1 hd))

end ArgumentsRead

namespace ParametersRead

variable {lo mid next hi : Position} {p : Parameters} {id : String} {a : Node} {d : Option Node}

theorem empty (lo : Position) : ParametersLie lo lo {} :=
  ⟨le_refl lo, by simp, by simp, by simp, by simp, by simp⟩

theorem mono (h : ParametersLie lo mid p) (hhi : mid ≤ hi) : ParametersLie lo hi p :=
  { h with
    names := h.names.mono le_rfl hhi
    values := fun x hx => ⟨(h.values x hx).1.mono le_rfl hhi, (h.values x hx).2⟩ }

/-- One more parameter behind all the others. -/
theorem names_snoc (id : String) {old : List Node} (new : List Node) (hnew : new = old ++ [.parameter id a])
    (names : LieInTurn lo mid old) (areNames : ∀ x ∈ old, x.isParameter = true) (ha : Lies mid hi a) :
    LieInTurn lo hi new ∧ ∀ x ∈ new, x.isParameter = true := by
  subst hnew
  refine ⟨names.snoc (.of_parts rfl rfl (.singleton ha)), fun x hx => ?_⟩
  rcases List.mem_append.1 hx with hx | hx
  · exact areNames x hx
  · rw [List.mem_singleton.1 hx]
    rfl

theorem positional (h : ParametersLie lo mid p) (first : p.rest = [] ∧ p.named = [] ∧ p.keywords = [])
    (turn : LieInTurn mid hi (a :: d.toList)) (value : ∀ x ∈ d, x.isValue = true) :
    ParametersLie lo hi
      { p with positional := .parameter id a :: p.positional, defaults := d.toList ++ p.defaults } := by
  obtain ⟨next, ha, hd⟩ := turn
  obtain ⟨names, areNames⟩ := names_snoc id
    ((.parameter id a :: p.positional).reverse ++ p.rest ++ p.named.reverse ++ p.keywords)
    (by simp [first]) h.names h.areNames (ha.mono le_rfl hd.le)
  refine ⟨names, areNames, fun x hx => ?_, h.last, h.named, by simp⟩
  have hx : x ∈ d.toList ∨ x ∈ p.namedDefaults.reverse ++ p.defaults.reverse := by
    simp only [List.mem_append, List.mem_reverse] at hx ⊢
    tauto
  rcases hx with hx | hx
  · have hlies := (hd.of_mem hx).mono (h.names.le.trans ha.le) le_rfl
    exact ⟨hlies, Node.isParameter_of_isValue (value x (Option.mem_toList.1 hx))⟩
  · have := ha.le.trans hd.le
    exact ⟨(h.values x hx).1.mono le_rfl this, (h.values x hx).2⟩

theorem named (h : ParametersLie lo mid p) (last : p.keywords = []) (turn : LieInTurn mid hi (a :: d.toList))
    (value : ∀ x ∈ d, x.isValue = true) :
    ParametersLie lo hi
      { p with named := .parameter id a :: p.named, namedDefaults := d.getD .absent :: p.namedDefaults } := by
  obtain ⟨next, ha, hd⟩ := turn
  obtain ⟨names, areNames⟩ := names_snoc id
    (p.positional.reverse ++ p.rest ++ (.parameter id a :: p.named).reverse ++ p.keywords)
    (by simp [last]) h.names h.areNames (ha.mono le_rfl hd.le)
  refine ⟨names, areNames, fun x hx => ?_, by simp [last], by simp, h.positional⟩
  have hx : x = d.getD .absent ∨ x ∈ p.namedDefaults.reverse ++ p.defaults.reverse := by
    simp only [List.mem_append, List.mem_reverse, List.mem_cons] at hx ⊢
    tauto
  rcases hx with rfl | hx
  · cases d with
    | none => exact ⟨(Lies.leaf rfl rfl rfl).mono le_rfl names.le, rfl⟩
    | some x => exact ⟨hd.single.mono (h.names.le.trans ha.le) le_rfl, Node.isParameter_of_isValue (value x rfl)⟩
  · have := ha.le.trans hd.le
    exact ⟨(h.values x hx).1.mono le_rfl this, (h.values x hx).2⟩

theorem rest (h : ParametersLie lo mid p) (first : p.rest = [] ∧ p.named = [] ∧ p.keywords = []) (ha : Lies mid hi a) :
    ParametersLie lo hi { p with rest := [.parameter id a] } := by
  obtain ⟨names, areNames⟩ := names_snoc id
    (p.positional.reverse ++ [.parameter id a] ++ p.named.reverse ++ p.keywords)
    (by simp [first]) h.names h.areNames ha
  exact { mono h ha.le with names := names, areNames := areNames }

theorem keywords (h : ParametersLie lo mid p) (last : p.keywords = []) (ha : Lies mid hi a) :
    ParametersLie lo hi { p with keywords := [.parameter id a] } := by
  obtain ⟨names, areNames⟩ := names_snoc id
    (p.positional.reverse ++ p.rest ++ p.named.reverse ++ [.parameter id a])
    (by simp [last]) h.names h.areNames ha
  refine { mono h ha.le with names := names, areNames := areNames, last := fun c hc d hd => ?_ }
  obtain rfl := List.mem_singleton.1 hd
  exact (h.values c (List.mem_append_left _ hc)).1.before (.of_parts rfl rfl (.singleton ha))

end ParametersRead

namespace Rules.Sound

variable {r : Rules} (h : r.Sound)

include h

/-! ## Lists of expressions -/

/-- A target with a star before it or without. -/
theorem readsValue_starTarget : ReadsValue (do
    let starred ← acceptPunct .star
    let x ← r.primary
    if isTarget x then return (if starred then .starred x else x) else fail) := by
  refine .of_after fun lo => .skip (.accept _) fun starred => .bring h.primary fun x hx => ?_
  refine .ite (fun _ => ?_) fun _ => .fail
  cases starred with
  | true => exact .pure fun hi turn => ⟨readIn turn rfl rfl rfl, rfl⟩
  | false => exact .pure fun hi turn => ⟨turn, hx⟩

theorem readsValue_starTargets : ReadsValue (starTargets r) :=
  .of_after fun _ => .bring (readsAll_commaList h.readsValue_starTarget) fun _ values =>
    .pure fun _ turn => lies_tupleIf turn values

omit h in
theorem moves_inlineTarget : Moves inlineTarget? := by
  refine .bind .peekKind fun kind => ?_
  split
  · exact .bind .peekSecond fun _ => .pure
  · exact .pure

theorem readsValue_namedExpression : ReadsValue (namedExpression r) := by
  refine .of_after fun lo => .skip moves_inlineTarget fun target => ?_
  split
  · next id =>
    refine .skip .advance fun _ => .skip .advance fun _ => .leaf (.name id) rfl rfl rfl ?_
    refine .bring h.expression fun x hx => ?_
    exact .pure fun hi turn => ⟨readIn turn rfl rfl rfl, rfl⟩
  · refine .bring h.expression fun x hx => .skip (.nextIs _) fun _ => .ite (fun _ => .fail) fun _ => ?_
    exact .pure fun hi turn => ⟨turn, hx⟩

/-- A star with an operand behind it, or what `p` reads. -/
theorem readsValue_starOr {p : Parser Node} (hp : ReadsValue p) :
    ReadsValue (do if ← acceptPunct .star then return .starred (← r.bitOr) else p) := by
  refine .of_after fun lo => .skip (.accept _) fun _ => .ite (fun _ => ?_) fun _ => ?_
  · exact .bring h.bitOr fun x hx => .pure fun hi turn => ⟨readIn turn rfl rfl rfl, rfl⟩
  · exact .last hp fun hi x hx turn => ⟨turn, hx⟩

theorem readsValue_starNamedExpression : ReadsValue (starNamedExpression r) :=
  h.readsValue_starOr h.readsValue_namedExpression

theorem readsValue_starExpression : ReadsValue (starExpression r) := h.readsValue_starOr h.expression

theorem readsValue_starExpressions : ReadsValue (starExpressions r) :=
  .of_after fun _ => .bring (readsAll_commaList h.readsValue_starExpression) fun _ values =>
    .pure fun _ turn => lies_tupleIf turn values

theorem readsValue_yieldExpression : ReadsValue (yieldExpression r) := by
  refine .of_after fun lo => .skip (.expect _) fun _ => .skip (.accept _) fun _ => .ite (fun _ => ?_) fun _ => ?_
  · exact .bring h.expression fun x hx => .pure fun hi turn => ⟨readIn turn rfl rfl rfl, rfl⟩
  · refine .skip .peekKind fun _ => .ite (fun _ => ?_) fun _ => ?_
    · exact .bring h.readsValue_starExpressions fun x hx => .pure fun hi turn => ⟨readIn turn rfl rfl rfl, rfl⟩
    · exact .leaf .absent rfl rfl rfl (.pure fun hi turn => ⟨readIn turn rfl rfl rfl, rfl⟩)

theorem readsValue_yieldOrExpressions : ReadsValue (yieldOrExpressions r) := by
  refine .of_after fun lo => .skip (.nextIs _) fun _ => .ite (fun _ => ?_) fun _ => ?_
  · exact .last h.readsValue_yieldExpression fun hi x hx turn => ⟨turn, hx⟩
  · exact .last h.readsValue_starExpressions fun hi x hx turn => ⟨turn, hx⟩

/-! ## Comprehensions and displays -/

theorem readsValue_clause : ReadsValue (clause r) := by
  refine .of_after fun lo => .skip (.accept _) fun _ => .skip (.expect _) fun _ => ?_
  refine .bring h.readsValue_starTargets fun target _ => .skip (.expect _) fun _ => ?_
  refine .bring h.disjunction fun source _ => .gather (fun lo => ?_) fun conditions => ?_
  · refine .loop (fun acc => acc.reverse) (I := fun _ => True) rfl trivial fun acc _ => ?_
    refine .skip (.accept _) fun _ => .ite (fun _ => ?_) fun _ => .pure fun hi turn => turn
    exact .bring h.disjunction fun x _ => .next (by simp) trivial
  · exact .pure fun hi turn => ⟨readIn turn rfl rfl rfl, rfl⟩

theorem brings_clauses (lo : Position) : After lo [] (clauses r) fun hi cs => LieInTurn lo hi cs := by
  refine .bring h.readsValue_clause fun first _ => ?_
  refine .loop (fun acc => acc.reverse) (I := fun _ => True) rfl trivial fun acc _ => ?_
  refine .skip .peekKind fun _ => .ite (fun _ => ?_) fun _ => .pure fun hi turn => turn
  exact .bring h.readsValue_clause fun x _ => .next (by simp) trivial

/-- A comprehension after its results, up to the closing sign. -/
theorem after_comprehension {lo : Position} {results : List Node} {close : Punct} :
    After lo results (do
      let cs ← clauses r
      expectPunct close
      return .comprehension results cs) fun hi n => LieInTurn lo hi [n] ∧ n.isValue = true :=
  .gather h.brings_clauses fun _ => .skip (.expect _) fun _ => .pure fun _ turn => ⟨readIn turn rfl rfl rfl, rfl⟩

/-- More items of a list in which the first one has been read. -/
theorem brings_items :
    Brings (fun items => items.1) (fun _ => True) (commaList startsStarred (starNamedExpression r)) :=
  (readsAll_commaList h.readsValue_starNamedExpression).imp fun _ _ => trivial

theorem readsValue_parenthesized : ReadsValue (parenthesized r) := by
  refine .of_after fun lo => .skip (.expect _) fun _ => .skip (.accept _) fun _ => .ite (fun _ => ?_) fun _ => ?_
  · exact .pure fun hi turn => ⟨readIn turn rfl rfl rfl, rfl⟩
  refine .skip (.nextIs _) fun _ => .ite (fun _ => ?_) fun _ => ?_
  · refine .bring h.readsValue_yieldExpression fun y hy => .skip (.expect _) fun _ => ?_
    exact .pure fun hi turn => ⟨turn, hy⟩
  refine .bring h.readsValue_starNamedExpression fun first hfirst => ?_
  refine .skip .peekKind fun _ => .ite (fun _ => h.after_comprehension) fun _ => ?_
  refine .skip (.accept _) fun _ => .ite (fun _ => ?_) fun _ => .ite (fun _ => .fail) fun _ => ?_
  · refine .skip .peekKind fun _ => .ite (fun _ => ?_) fun _ => .skip (.expect _) fun _ => ?_
    · refine .bring h.brings_items fun items _ => .skip (.expect _) fun _ => ?_
      exact .pure fun hi turn => ⟨readIn turn rfl rfl rfl, rfl⟩
    · exact .pure fun hi turn => ⟨readIn turn rfl rfl rfl, rfl⟩
  · exact .skip (.expect _) fun _ => .pure fun hi turn => ⟨turn, hfirst⟩

theorem brings_moreItems (lo : Position) : After lo [] (bracketed.moreItems r) fun hi ns => LieInTurn lo hi ns := by
  refine .skip (.accept _) fun _ => .ite (fun _ => ?_) fun _ => .pure fun hi turn => turn
  refine .skip .peekKind fun _ => .ite (fun _ => ?_) fun _ => .pure fun hi turn => turn
  exact .bring h.brings_items fun items _ => .pure fun hi turn => turn

theorem readsValue_bracketed : ReadsValue (bracketed r) := by
  refine .of_after fun lo => .skip (.expect _) fun _ => .skip (.accept _) fun _ => .ite (fun _ => ?_) fun _ => ?_
  · exact .pure fun hi turn => ⟨readIn turn rfl rfl rfl, rfl⟩
  refine .bring h.readsValue_starNamedExpression fun first hfirst => ?_
  refine .skip .peekKind fun _ => .ite (fun _ => h.after_comprehension) fun _ => ?_
  refine .gather h.brings_moreItems fun rest => .skip (.expect _) fun _ => ?_
  exact .pure fun hi turn => ⟨readIn turn rfl rfl rfl, rfl⟩

theorem brings_dictItem : Brings (fun p => [p.1, p.2]) (fun _ => True) (dictItem r) := by
  refine .of_after fun lo => .skip (.accept _) fun _ => .ite (fun _ => ?_) fun _ => ?_
  · exact .leaf .absent rfl rfl rfl (.bring h.bitOr fun x _ => .pure fun hi turn => ⟨turn, trivial⟩)
  · refine .bring h.expression fun key _ => .skip (.expect _) fun _ => .bring h.expression fun value _ => ?_
    exact .pure fun hi turn => ⟨turn, trivial⟩

theorem readsValue_braced : ReadsValue (braced r) := by
  have items : Brings (fun items => items.1.flatMap fun p => [p.1, p.2]) (fun _ => True)
      (commaList startsPair (dictItem r)) := (brings_commaList h.brings_dictItem).imp fun _ _ => trivial
  refine .of_after fun lo => .skip (.expect _) fun _ => .skip (.accept _) fun _ => .ite (fun _ => ?_) fun _ => ?_
  · exact .pure fun hi turn => ⟨readIn turn rfl rfl rfl, rfl⟩
  refine .skip (.nextIs _) fun _ => .ite (fun _ => ?_) fun _ => ?_
  · exact .bring items fun items _ => .skip (.expect _) fun _ => .pure fun hi turn => ⟨lies_dictOf turn, rfl⟩
  refine .skip moves_inlineTarget fun inline => .bring h.readsValue_starNamedExpression fun first hfirst => ?_
  refine .skip (.nextIs _) fun _ => .ite (fun _ => ?_) fun _ => ?_
  · refine .skip .advance fun _ => .bring h.expression fun value _ => ?_
    have single : After lo ([] ++ [first] ++ [value]) (do
        expectPunct .rbrace
        return dictOf [(first, value)]) fun hi n => LieInTurn lo hi [n] ∧ n.isValue = true :=
      .skip (.expect _) fun _ => .pure fun hi turn => ⟨lies_dictOf turn, rfl⟩
    refine .skip .peekKind fun _ => .ite (fun _ => h.after_comprehension) fun _ => ?_
    refine .skip (.accept _) fun _ => .ite (fun _ => ?_) fun _ => single
    refine .skip .peekKind fun _ => .ite (fun _ => ?_) fun _ => single
    exact .bring items fun items _ => .skip (.expect _) fun _ => .pure fun hi turn => ⟨lies_dictOf turn, rfl⟩
  · refine .skip .peekKind fun _ => .ite (fun _ => h.after_comprehension) fun _ => ?_
    refine .gather h.brings_moreItems fun rest => .skip (.expect _) fun _ => ?_
    exact .pure fun hi turn => ⟨readIn turn rfl rfl rfl, rfl⟩

/-! ## Calls and subscripts -/

section Arguments

variable {lo mid : Position} {a : Arguments}

theorem yields_argument (read : ArgumentsRead lo mid a) :
    Yields mid (argument r a) fun hi b => ArgumentsRead lo hi b := by
  have positional : After mid [] (argument.positional r a) fun hi b => ArgumentsRead lo hi b := by
    refine .ite (fun _ => .fail) fun hkind => .bring h.readsValue_namedExpression fun x _ => ?_
    simp only [Bool.or_eq_true, not_or, Bool.not_eq_true] at hkind
    refine .skip (.nextIs _) fun _ => .ite (fun _ => .fail) fun _ => .pure fun hi turn => ⟨?_, read.named, read.none⟩
    exact read.positional turn.single (by simp [read.none hkind.1 hkind.2])
  refine .of_after (.skip (.accept _) fun _ => .ite (fun _ => ?_) fun _ => ?_)
  · refine .bring h.expression fun v _ => .pure fun hi turn => ⟨?_, by simp, by simp⟩
    exact read.keyword (readIn turn rfl rfl rfl).single
  refine .skip (.nextIs _) fun _ => .ite (fun _ => .ite (fun _ => .fail) fun hspread => ?_) fun _ => ?_
  · refine .skip .advance fun _ => .bring h.expression fun v _ => .pure fun hi turn => ⟨?_, read.named, read.none⟩
    refine read.positional (readIn turn rfl rfl rfl).single fun k hk => ⟨rfl, ?_⟩
    exact read.named (Bool.not_eq_true _ ▸ hspread) k hk
  · refine .skip .peekKind fun kind => ?_
    split
    · refine .skip .peekSecond fun _ => .ite (fun _ => ?_) fun _ => positional
      refine .skip .advance fun _ => .skip .advance fun _ => .bring h.expression fun v _ => ?_
      refine .pure fun hi turn => ⟨?_, ?_, by simp⟩
      · exact read.keyword (readIn turn rfl rfl rfl).single
      · exact fun hspread => List.forall_mem_cons.2 ⟨rfl, read.named hspread⟩
    · exact positional

theorem yields_moreArguments (read : ArgumentsRead lo mid a) :
    Yields mid (moreArguments r a) fun hi b => ArgumentsRead lo hi b := by
  refine .loop (I := fun hi b => ArgumentsRead lo hi b) read fun mid b _ read => ?_
  refine .skip (.accept _) fun mid _ hmid => ?_
  replace read := read.mono hmid
  split
  · refine .skip .peekKind fun mid _ hmid => ?_
    replace read := read.mono hmid
    split
    · exact (h.yields_argument read).bind fun hi c _ hc => .pure hc
    · exact .pure read
  · exact .pure read

theorem yields_arguments (lo : Position) : Yields lo (arguments r) fun hi a => ArgumentsLie lo hi a.1 a.2 := by
  refine .skip .peekKind fun mid _ hmid => ?_
  have start := (ArgumentsRead.empty lo).mono hmid
  split
  · refine (h.yields_argument start).bind fun next a _ read => ?_
    exact (h.yields_moreArguments read).bind fun hi b _ read => .pure read.lie
  · exact .pure start.lie

theorem yields_callArguments (lo : Position) : Yields lo (callArguments r) fun hi a => ArgumentsLie lo hi a.1 a.2 := by
  refine .skip .peekKind fun mid _ hmid => ?_
  have start := (ArgumentsRead.empty lo).mono hmid
  split
  · refine (h.yields_argument start).bind fun next a _ read => .skip .peekKind fun next _ hnext => ?_
    replace read := read.mono hnext
    split
    · next e hpositional _ =>
      have turn := read.lie.positional
      rw [hpositional] at turn
      refine After.ite (fun _ => .fail) (fun _ => ?_) turn
      refine .gather h.brings_clauses fun cs => .skip (.expect _) fun _ => .pure fun hi turn => ?_
      exact ⟨readIn turn rfl rfl rfl, turn.le, by simp⟩
    · refine (h.yields_moreArguments read).bind fun hi b _ read => .skip (.expect _) fun hi' _ hle => ?_
      exact .pure (read.mono hle).lie
  · exact .skip (.expect _) fun hi _ hle => .pure (start.mono hle).lie

end Arguments

theorem after_bounds {lo : Position} {lower : Node} :
    After lo [lower] (slice.bounds r lower) fun hi n => LieInTurn lo hi [n] ∧ n.isValue = true := by
  have bound : ReadsValue (slice.bound r) := by
    refine .of_after fun lo => .skip .peekKind fun _ => .ite (fun _ => ?_) fun _ => ?_
    · exact .last h.expression fun hi x hx turn => ⟨turn, hx⟩
    · exact .leaf .absent rfl rfl rfl (.pure fun hi turn => ⟨turn, rfl⟩)
  refine .skip (.expect _) fun _ => .bring bound fun upper _ => ?_
  refine .skip (.accept _) fun _ => .ite (fun _ => ?_) fun _ => ?_
  · exact .bring bound fun step _ => .pure fun hi turn => ⟨readIn turn rfl rfl rfl, rfl⟩
  · exact .leaf .absent rfl rfl rfl (.pure fun hi turn => ⟨readIn turn rfl rfl rfl, rfl⟩)

theorem readsValue_slice : ReadsValue (slice r) := by
  refine .of_after fun lo => .skip (.nextIs _) fun _ => .ite (fun _ => ?_) fun _ => ?_
  · refine .skip .advance fun _ => .bring h.expression fun x _ => .pure fun hi turn => ?_
    exact ⟨readIn turn rfl rfl rfl, rfl⟩
  refine .skip (.nextIs _) fun _ => .ite (fun _ => .leaf .absent rfl rfl rfl h.after_bounds) fun _ => ?_
  refine .skip moves_inlineTarget fun _ => .bring h.readsValue_namedExpression fun first hfirst => ?_
  exact .skip (.nextIs _) fun _ => .ite (fun _ => h.after_bounds) fun _ => .pure fun hi turn => ⟨turn, hfirst⟩

theorem readsValue_slices : ReadsValue (slices r) := by
  refine .of_after fun lo => .bring (readsAll_commaList h.readsValue_slice) fun items values => ?_
  split
  · exact .pure fun hi turn => ⟨readIn turn rfl rfl rfl, rfl⟩
  · exact .pure fun hi turn => lies_tupleIf turn values

/-! ## Parameters -/

theorem readsValue_typeExpr (k : ParameterRules) (starred : Bool) : ReadsValue (typeExpr r k starred) := by
  have absent (lo : Position) : After lo [] (pure .absent) fun hi n => LieInTurn lo hi [n] ∧ n.isValue = true :=
    .leaf .absent rfl rfl rfl (.pure fun hi turn => ⟨turn, rfl⟩)
  refine .of_after fun lo => .ite (fun _ => ?_) fun _ => absent lo
  refine .skip (.accept _) fun _ => .ite (fun _ => .ite (fun _ => ?_) fun _ => ?_) fun _ => absent lo
  · exact .last h.readsValue_starExpression fun hi x hx turn => ⟨turn, hx⟩
  · exact .last h.expression fun hi x hx turn => ⟨turn, hx⟩

theorem brings_defaultValue : Brings Option.toList (fun d => ∀ x ∈ d, x.isValue = true) (defaultValue? r) := by
  refine .of_after fun lo => .skip (.accept _) fun _ => .ite (fun _ => ?_) fun _ => .pure fun hi turn => ⟨turn, by simp⟩
  exact .bring h.expression fun x hx => .pure fun hi turn => ⟨turn, by simpa using hx⟩

omit h in
theorem moves_separator (k : ParameterRules) : Moves (separator k) :=
  .bind (.accept _) fun _ => .ite .pure (.bind (.nextIs _) fun _ => .ite .pure .fail)

section Parameters

variable {lo mid : Position} {k : ParameterRules} {p : Parameters}

theorem yields_keywordRest (read : ParametersLie lo mid p) (last : p.keywords = []) :
    Yields mid (keywordRest r k p) fun hi q => ParametersLie lo hi q := by
  refine .of_after (.skip .name fun id => .bring (h.readsValue_typeExpr k false) fun a _ => ?_)
  refine .skip (moves_separator k) fun _ => .skip (.nextIs _) fun _ => .ite (fun _ => ?_) fun _ => .fail
  exact .pure fun hi turn => ParametersRead.keywords read last turn.single

theorem yields_namedOnly {need : Bool} (read : ParametersLie lo mid p) (last : p.keywords = []) :
    Yields mid (namedOnly r k need p) fun hi q => ParametersLie lo hi q := by
  refine .loop (I := fun hi acc => ParametersLie lo hi acc.2 ∧ acc.2.keywords = []) ⟨read, last⟩ ?_
  rintro mid ⟨need, p⟩ - ⟨read, last⟩
  refine .skip .peekKind fun mid kind hmid => ?_
  replace read := ParametersRead.mono read hmid
  split
  · refine .skip .advance fun mid _ hmid => .of_after ?_
    replace read := ParametersRead.mono read hmid
    refine .bring (h.readsValue_typeExpr k false) fun a _ => .bring h.brings_defaultValue fun d value => ?_
    exact .skip (moves_separator k) fun _ => .pure fun hi turn => ⟨ParametersRead.named read last turn value, last⟩
  · split
    · exact .fail
    · refine .skip .advance fun mid _ hmid => ?_
      exact (h.yields_keywordRest (ParametersRead.mono read hmid) last).bind fun hi q _ hq => .pure hq
  · split
    · exact .fail
    · exact .pure read

theorem yields_afterStar (read : ParametersLie lo mid p) (first : p.rest = [] ∧ p.named = [] ∧ p.keywords = []) :
    Yields mid (afterStar r k p) fun hi q => ParametersLie lo hi q := by
  refine .skip (.accept _) fun mid _ hmid => ?_
  replace read := ParametersRead.mono read hmid
  split
  · exact h.yields_namedOnly read first.2.2
  · refine .skip .name fun mid id hmid => ?_
    replace read := ParametersRead.mono read hmid
    refine (h.readsValue_typeExpr k true mid).bind fun next a _ ha => .skip (moves_separator k) fun hi _ hhi => ?_
    exact h.yields_namedOnly (ParametersRead.rest read first (ha.1.single.mono le_rfl hhi)) first.2.2

theorem yields_parameters (lo : Position) : Yields lo (parameters r k) fun hi n => Lies lo hi n := by
  refine Yields.bind (P := fun hi q => ParametersLie lo hi q) ?_ fun hi q _ read => .pure (.parameters read)
  refine .loop (I := fun hi acc => ParametersLie lo hi acc.2 ∧ acc.2.rest = [] ∧ acc.2.named = [] ∧ acc.2.keywords = [])
    ⟨ParametersRead.empty lo, rfl, rfl, rfl⟩ ?_
  rintro mid ⟨slashed, p⟩ - ⟨read, first⟩
  refine .skip .peekKind fun mid kind hmid => ?_
  replace read := ParametersRead.mono read hmid
  split
  · refine .skip .advance fun mid _ hmid => .of_after ?_
    replace read := ParametersRead.mono read hmid
    refine .bring (h.readsValue_typeExpr k false) fun a _ => .bring h.brings_defaultValue fun d value => ?_
    refine .skip (moves_separator k) fun _ => ?_
    split
    · exact .fail
    · exact .pure fun hi turn => ⟨ParametersRead.positional read first turn value, first⟩
  · split
    · exact .fail
    · refine .skip .advance fun mid _ hmid => .skip (moves_separator k) fun hi _ hhi => ?_
      exact .pure ⟨ParametersRead.mono read (hmid.trans hhi), first⟩
  · refine .skip .advance fun mid _ hmid => ?_
    exact (h.yields_afterStar (ParametersRead.mono read hmid) first).bind fun hi q _ hq => .pure hq
  · refine .skip .advance fun mid _ hmid => ?_
    exact (h.yields_keywordRest (ParametersRead.mono read hmid) first.2.2).bind fun hi q _ hq => .pure hq
  · exact .pure read

end Parameters

theorem readsValue_lambdaExpression : ReadsValue (lambdaExpression r) := by
  have params : Reads (fun _ => True) (parameters r ⟨false, .colon⟩) := fun lo =>
    (h.yields_parameters lo).imp fun _ _ _ lies => ⟨.singleton lies, trivial⟩
  refine .of_after fun lo => .skip (.expect _) fun _ => .bring params fun p _ => .skip (.expect _) fun _ => ?_
  exact .bring h.expression fun body _ => .pure fun hi turn => ⟨readIn turn rfl rfl rfl, rfl⟩

/-! ## From atoms to expressions -/

omit h in
theorem readsValue_constant {p : Parser Unit} (hp : Moves p) :
    ReadsValue (do
      p
      return .constant) :=
  .of_after fun _ => .skip hp fun _ => .leaf .constant rfl rfl rfl (.pure fun _ turn => ⟨turn, rfl⟩)

omit h in
theorem readsValue_numberLiteral (form : NumberForm) : ReadsValue (numberLiteral form) := by
  refine .of_after fun lo => ?_
  unfold numberLiteral
  split
  · exact .fail
  · exact .leaf .constant rfl rfl rfl (.pure fun hi turn => ⟨turn, rfl⟩)

theorem readsValue_atom : ReadsValue (atom r) := by
  refine .of_after fun lo => .skip .peekKind fun kind => ?_
  have rule {p : Parser Node} (hp : ReadsValue p) : After lo [] p fun hi n => LieInTurn lo hi [n] ∧ n.isValue = true :=
    .last hp fun hi x hx turn => ⟨turn, hx⟩
  split
  · next id _ =>
    exact .skip .advance fun _ => .leaf (.name id) rfl rfl rfl (.pure fun hi turn => ⟨turn, rfl⟩)
  · exact rule (readsValue_constant .advance)
  · exact rule (readsValue_constant .advance)
  · exact rule (readsValue_constant .advance)
  · exact rule (readsValue_constant .advance)
  · next form => exact .skip .advance fun _ => rule (readsValue_numberLiteral form)
  · exact rule (reads_strings h.readsValue_starExpressions)
  · exact rule h.readsValue_parenthesized
  · exact rule h.readsValue_bracketed
  · exact rule h.readsValue_braced
  · exact .fail

theorem readsValue_primaryRule : ReadsValue (primaryRule r) := by
  refine .of_after fun lo => .bring h.readsValue_atom fun x hx => ?_
  refine .loop (fun x => [x]) (I := fun x => x.isValue = true) rfl hx fun x hx => .skip .peekKind fun kind => ?_
  split
  · exact .skip .advance fun _ => .skip .name fun _ => .pure fun hi turn => ⟨readIn turn rfl rfl rfl, rfl⟩
  · intro mid turn
    refine .skip .advance fun mid _ hmid => (h.yields_callArguments mid).bind fun hi a _ ha => .pure ⟨?_, rfl⟩
    exact .singleton (.call (turn.single.mono le_rfl hmid) ha)
  · refine .skip .advance fun _ => .bring h.readsValue_slices fun index _ => .skip (.expect _) fun _ => ?_
    exact .pure fun hi turn => ⟨readIn turn rfl rfl rfl, rfl⟩
  · exact .pure fun hi turn => ⟨turn, hx⟩

/-- An await starts at its keyword, before what it awaits. -/
theorem readsValue_awaitPrimary : ReadsValue (awaitPrimary r) := by
  intro lo
  unfold awaitPrimary nextIsKeyword nextIs
  rw [bind_assoc]
  refine .peek fun t => ?_
  change YieldsAt t lo (if (t.kind == .keyword .await) = true then _ else _) _
  split
  · next hkind =>
    rw [here, bind_assoc]
    refine .peek (.advance (by rw [eq_of_beq hkind]; rfl) fun start stop _ => ?_)
    refine (h.readsValue_primaryRule _).bind fun mid x _ hx => ?_
    refine (Yields.spanFrom _).bind fun hi span hhi hspan => .pure ⟨.singleton ?_, rfl⟩
    rw [← hspan] at start stop
    exact .await start stop (hx.1.single.mono le_rfl hhi)
  · exact .of_yields (h.readsValue_primaryRule lo)

theorem readsValue_factorRule : ReadsValue (factorRule r) := by
  refine .of_after fun lo => .skip .peekKind fun kind => ?_
  have signed : After lo [] (do
      advance
      return .operation [← r.factor]) fun hi n => LieInTurn lo hi [n] ∧ n.isValue = true :=
    .skip .advance fun _ => .bring h.factor fun x _ => .pure fun _ turn => ⟨readIn turn rfl rfl rfl, rfl⟩
  split
  · exact signed
  · exact signed
  · exact signed
  · refine .bring h.readsValue_awaitPrimary fun base hbase => .skip (.accept _) fun _ => .ite (fun _ => ?_) fun _ => ?_
    · exact .bring h.factor fun x _ => .pure fun hi turn => ⟨readIn turn rfl rfl rfl, rfl⟩
    · exact .pure fun hi turn => ⟨turn, hbase⟩

omit h in
theorem readsValue_binary {operand : Parser Node} (ho : ReadsValue operand) (levels : List (List Punct)) :
    ReadsValue (binary operand levels) := by
  induction levels with
  | nil => exact ho
  | cons ops levels ih =>
    refine .of_after fun lo => .bring ih fun first hfirst => ?_
    refine .loop (fun x => [x]) (I := fun x => x.isValue = true) rfl hfirst fun x hx => .skip .peekKind fun kind => ?_
    split
    · refine .ite (fun _ => .skip .advance fun _ => .bring ih fun y _ => ?_) fun _ => .pure fun hi turn => ⟨turn, hx⟩
      exact .pure fun hi turn => ⟨readIn turn rfl rfl rfl, rfl⟩
    · exact .pure fun hi turn => ⟨turn, hx⟩

omit h in
theorem moves_comparisonSign : Moves comparisonSign := by
  refine .bind .peekKind fun kind => ?_
  split
  · exact .ite (.bind .advance fun _ => .pure) .pure
  · exact .bind .advance fun _ => .pure
  · exact .bind .advance fun _ => .bind (.expect _) fun _ => .pure
  · exact .bind .advance fun _ => .bind (.accept _) fun _ => .pure
  · exact .pure

omit h in
/-- Operands with signs between them. -/
theorem readsValue_operands {sign : Parser Bool} {operand : Parser Node} (hs : Moves sign) (ho : ReadsValue operand) :
    ReadsValue (do
      let first ← operand
      loop (fun (acc : List Node) => do
        if ← sign then return .inl ((← operand) :: acc)
        else match acc with
          | [x] => return .inr x
          | xs => return .inr (.operation xs.reverse)) [first]) := by
  refine .of_after fun lo => .bring ho fun first hfirst => ?_
  refine .loop (fun acc => acc.reverse) (I := fun acc => ∀ x ∈ acc, x.isValue = true) rfl (by simpa using hfirst) ?_
  intro acc hacc
  refine .skip hs fun _ => .ite (fun _ => .bring ho fun x hx => ?_) fun _ => ?_
  · exact .next (by simp) (List.forall_mem_cons.2 ⟨hx, hacc⟩)
  · split
    · next x => exact .pure fun hi turn => ⟨turn, hacc x (by simp)⟩
    · exact .pure fun hi turn => ⟨readIn turn rfl rfl rfl, rfl⟩

theorem readsValue_bitOrRule : ReadsValue (bitOrRule r) := readsValue_binary h.readsValue_factorRule binaryLevels

theorem readsValue_comparison : ReadsValue (comparison r) :=
  readsValue_operands moves_comparisonSign h.readsValue_bitOrRule

theorem readsValue_inversionRule : ReadsValue (inversionRule r) := by
  refine .of_after fun lo => .skip (.accept _) fun _ => .ite (fun _ => .bring h.inversion fun x _ => ?_) fun _ => ?_
  · exact .pure fun hi turn => ⟨readIn turn rfl rfl rfl, rfl⟩
  · exact .last h.readsValue_comparison fun hi x hx turn => ⟨turn, hx⟩

theorem readsValue_disjunctionRule : ReadsValue (disjunctionRule r) :=
  readsValue_operands (.accept _) (readsValue_operands (.accept _) h.readsValue_inversionRule)

theorem readsValue_expressionRule : ReadsValue (expressionRule r) := by
  refine .of_after fun lo => .skip (.nextIs _) fun _ => .ite (fun _ => ?_) fun _ => ?_
  · exact .last h.readsValue_lambdaExpression fun hi x hx turn => ⟨turn, hx⟩
  refine .bring h.readsValue_disjunctionRule fun body hbody => .skip (.accept _) fun _ => .ite (fun _ => ?_) fun _ => ?_
  · refine .bring h.readsValue_disjunctionRule fun test _ => .skip (.expect _) fun _ => ?_
    exact .bring h.expression fun other _ => .pure fun hi turn => ⟨.singleton (.conditional turn), rfl⟩
  · exact .pure fun hi turn => ⟨turn, hbody⟩

end Rules.Sound

end AwaitLint.Grammar
