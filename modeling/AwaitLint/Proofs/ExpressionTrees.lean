import AwaitLint.Proofs.ParserResults
import AwaitLint.Proofs.PatternNames

/-! # Expressions hold no patterns

Every rule for expressions gives a tree without patterns, whatever it reads: the smaller rules that it falls back on do,
and what it builds from their trees is no pattern itself.
-/

namespace AwaitLint

namespace Node

theorem Patternless.leaf {n : Node} (kind : n.isPattern = false) (none : n.children = []) : n.Patternless := by
  refine .node kind fun m hm => ?_
  rw [none] at hm
  exact absurd hm List.not_mem_nil

theorem patternless_absent : absent.Patternless := .leaf rfl rfl

theorem patternless_name (id : String) : (name id).Patternless := .leaf rfl rfl

theorem patternless_constant : constant.Patternless := .leaf rfl rfl

/-- A node with a single part. -/
theorem Patternless.wrap {n m : Node} (kind : n.isPattern = false) (one : n.children = [m]) (h : m.Patternless) :
    n.Patternless := by
  refine .node kind ?_
  rw [one]
  exact List.forall_mem_singleton.2 h

/-- A node with two parts. -/
theorem Patternless.join {n m m' : Node} (kind : n.isPattern = false) (two : n.children = [m, m']) (h : m.Patternless)
    (h' : m'.Patternless) : n.Patternless := by
  refine .node kind ?_
  rw [two]
  exact List.forall_mem_cons.2 ⟨h, List.forall_mem_singleton.2 h'⟩

end Node

namespace Grammar

open AwaitLint.Node (Patternless patternless_absent patternless_name patternless_constant)
open AwaitLint.Grammar.Parser

/-- The smaller rules for expressions give trees without patterns, those for patterns give match patterns, and blocks
hold match patterns only where a pattern stands. -/
structure Rules.WellSorted (r : Rules) : Prop where
  expression : Gives Patternless r.expression
  disjunction : Gives Patternless r.disjunction
  inversion : Gives Patternless r.inversion
  bitOr : Gives Patternless r.bitOr
  factor : Gives Patternless r.factor
  primary : Gives Patternless r.primary
  pattern : Gives Node.IsPattern r.pattern
  block : GivesEach Node.WellSorted r.block

theorem patternless_tupleIf {items : List Node × Bool} (h : ∀ n ∈ items.1, n.Patternless) :
    (tupleIf items).Patternless := by
  unfold tupleIf
  split
  · exact h _ List.mem_cons_self
  · exact .node rfl h

theorem patternless_dictOf {items : List (Node × Node)} (h : ∀ p ∈ items, p.1.Patternless ∧ p.2.Patternless) :
    (dictOf items).Patternless := by
  refine .node rfl (List.forall_mem_append.2 ⟨?_, ?_⟩)
  · exact List.forall_mem_map.2 fun p hp => (h p hp).1
  · exact List.forall_mem_map.2 fun p hp => (h p hp).2

/-! ## Formatted strings -/

theorem Literal.formattedFrom_patternless {ε : Type} {parse : Mark → List Char → Except ε Node}
    (hparse : ∀ m text n, parse m text = .ok n → n.Patternless) {raw : Bool} {fuel level : Nat} {acc nodes : List Node}
    {c c' : Cursor} (h : formattedFrom parse raw fuel level acc c = .ok (nodes, c')) (hacc : ∀ n ∈ acc, n.Patternless) :
    ∀ n ∈ nodes, n.Patternless := by
  induction fuel generalizing level acc nodes c c' with
  | zero =>
    cases h
    exact forall_mem_reverse hacc
  | succ fuel ih =>
    obtain ⟨n, hnext | ⟨rfl, -⟩ | ⟨cs, text, value, spec, after, after₁, after₂, after₃, -, -, hvalue, -, -, hspec,
      hrest⟩⟩ := formattedFrom_cases h
    · exact ih hnext hacc
    · exact forall_mem_reverse hacc
    · have plain : spec.Patternless := by
        rcases hspec with ⟨rfl, -⟩ | ⟨specs, rfl, hspecs⟩
        · exact patternless_absent
        · exact .node rfl (ih hspecs (List.forall_mem_nil _))
      exact ih hrest (List.forall_mem_cons.2 ⟨.join rfl rfl (hparse _ _ _ hvalue) plain, hacc⟩)

/-- The text inside a formatted string is lexed anew, and its names are not empty either. -/
theorem patternless_of_parseFormatted {r : Rules} (h : Gives Patternless (starExpressions r)) {m : Mark}
    {text : List Char} {n : Node} (heq : parseFormatted r m text = .ok n) : n.Patternless := by
  unfold parseFormatted at heq
  dsimp only at heq
  split at heq
  · next node s hok =>
    cases heq
    exact (h hok (namesFilled_lexAt _ _)).2
  · cases heq

theorem gives_strings {r : Rules} (h : Gives Patternless (starExpressions r)) : Gives Patternless (strings r) := by
  refine .skip (Passes.loop (fun acc => .bind .peek fun t => ?_) _) fun tokens => ?_
  · split
    · exact .bind .advance fun _ => .pure
    · exact .pure
  extract_lets parts
  refine Gives.bind (P := fun nodes => ∀ n ∈ nodes, n.Patternless) ?_ fun nodes hnodes => ?_
  · refine .foldlM (List.forall_mem_nil _) fun acc p hacc => .ite ?_ ?_
    · split
      · next nodes c hok =>
        have inner := Literal.formattedFrom_patternless (fun _ _ _ => patternless_of_parseFormatted h) hok
          (List.forall_mem_nil _)
        exact .pure (List.forall_mem_append.2 ⟨hacc, inner⟩)
      · exact .fail
    · split
      · exact .fail
      · exact .pure hacc
  · exact .ite .fail (.ite (.pure (.node rfl hnodes)) (.pure patternless_constant))

/-! ## Parts of expressions -/

theorem passes_inlineTarget : Passes inlineTarget? := by
  refine .bind .peekKind fun kind => ?_
  split
  · exact .bind .peekSecond fun _ => .pure
  · exact .pure

theorem passes_separator (k : ParameterRules) : Passes (separator k) :=
  .bind (.accept _) fun _ => .ite .pure (.bind (.nextIs _) fun _ => .ite .pure .fail)

theorem gives_numberLiteral (form : NumberForm) : Gives Patternless (numberLiteral form) := by
  unfold numberLiteral
  split
  · exact .fail
  · exact .pure patternless_constant

theorem passes_comparisonSign : Passes comparisonSign := by
  refine .bind .peekKind fun kind => ?_
  split
  · exact .ite (.bind .advance fun _ => .pure) .pure
  · exact .bind .advance fun _ => .pure
  · exact .bind .advance fun _ => .bind (.expect _) fun _ => .pure
  · exact .bind .advance fun _ => .bind (.accept _) fun _ => .pure
  · exact .pure

theorem gives_binary {operand : Parser Node} (h : Gives Patternless operand) (levels : List (List Punct)) :
    Gives Patternless (binary operand levels) := by
  induction levels with
  | nil => exact h
  | cons ops levels ih =>
    refine .bind ih fun first hfirst => .loop hfirst fun x hx => .skip .peekKind fun kind => ?_
    split
    · exact .ite (.skip .advance fun _ => .bind ih fun y hy => .pure (Patternless.join rfl rfl hx hy)) (.pure hx)
    · exact .pure hx

/-- An operand that stands for itself, or several with signs between them that become one node. -/
theorem gives_operands {Q : Node → Prop} {sign : Parser Bool} {operand : Parser Node} (hs : Passes sign)
    (ho : Gives Q operand) {first : Node} (hfirst : Q first) (join : List Node → Node)
    (hjoin : ∀ ns, (∀ n ∈ ns, Q n) → Q (join ns)) :
    Gives Q (loop (fun (acc : List Node) => do
      if ← sign then return .inl ((← operand) :: acc)
      else match acc with
        | [x] => return .inr x
        | xs => return .inr (join xs.reverse)) [first]) := by
  refine .loop (I := fun acc : List Node => ∀ n ∈ acc, Q n) (List.forall_mem_singleton.2 hfirst) fun acc hacc => ?_
  refine .skip hs fun _ => .ite (.next ho hacc) ?_
  split
  · exact .pure (hacc _ List.mem_cons_self)
  · exact .pure (hjoin _ (forall_mem_reverse hacc))

theorem gives_joined (k : Keyword) {operand : Parser Node} (h : Gives Patternless operand) :
    Gives Patternless (joined k operand) :=
  .bind h fun _ hfirst => gives_operands (.accept _) h hfirst .operation fun _ plain => .node rfl plain

/-- The arguments read so far hold no patterns. -/
structure ArgumentsPlain (a : Arguments) : Prop where
  positional : ∀ n ∈ a.positional, n.Patternless
  keywords : ∀ n ∈ a.keywords, n.Patternless

theorem ArgumentsPlain.empty : ArgumentsPlain {} := ⟨List.forall_mem_nil _, List.forall_mem_nil _⟩

theorem ArgumentsPlain.reverse {a : Arguments} (h : ArgumentsPlain a) :
    (∀ n ∈ a.positional.reverse, n.Patternless) ∧ ∀ n ∈ a.keywords.reverse, n.Patternless :=
  ⟨forall_mem_reverse h.positional, forall_mem_reverse h.keywords⟩

/-- The parameters read so far hold no patterns. -/
structure ParametersPlain (p : Parameters) : Prop where
  positional : ∀ n ∈ p.positional, n.Patternless
  rest : ∀ n ∈ p.rest, n.Patternless
  named : ∀ n ∈ p.named, n.Patternless
  namedDefaults : ∀ n ∈ p.namedDefaults, n.Patternless
  keywords : ∀ n ∈ p.keywords, n.Patternless
  defaults : ∀ n ∈ p.defaults, n.Patternless

theorem ParametersPlain.empty : ParametersPlain {} := by
  constructor <;> exact List.forall_mem_nil _

theorem ParametersPlain.node {p : Parameters} (h : ParametersPlain p) : p.node.Patternless := by
  refine .node rfl fun n hn => ?_
  simp only [Parameters.node, Node.children, List.mem_append, List.mem_reverse] at hn
  rcases hn with ((((hn | hn) | hn) | hn) | hn) | hn
  · exact h.positional n hn
  · exact h.rest n hn
  · exact h.named n hn
  · exact h.namedDefaults n hn
  · exact h.keywords n hn
  · exact h.defaults n hn

namespace Rules.WellSorted

variable {r : Rules} (h : r.WellSorted)

include h

/-! ## Lists of expressions -/

/-- A target with a star before it or without. -/
theorem gives_starTarget : Gives Patternless (do
    let starred ← acceptPunct .star
    let x ← r.primary
    if isTarget x then return (if starred then .starred x else x) else fail) := by
  refine .skip (.accept _) fun starred => .bind h.primary fun x hx => .ite ?_ .fail
  cases starred with
  | true => exact .pure (.wrap rfl rfl hx)
  | false => exact .pure hx

theorem gives_starTargets : Gives Patternless (starTargets r) :=
  .bind (.commaList h.gives_starTarget) fun _ hitems => .pure (patternless_tupleIf hitems)

theorem gives_namedExpression : Gives Patternless (namedExpression r) := by
  refine .skip passes_inlineTarget fun target => ?_
  split
  · refine .skip .advance fun _ => .skip .advance fun _ => .bind h.expression fun x hx => ?_
    exact .pure (.join rfl rfl (patternless_name _) hx)
  · exact .bind h.expression fun x hx => .skip (.nextIs _) fun _ => .ite .fail (.pure hx)

/-- A star with an operand behind it, or what `p` gives. -/
theorem gives_starOr {p : Parser Node} (hp : Gives Patternless p) :
    Gives Patternless (do if ← acceptPunct .star then return .starred (← r.bitOr) else p) :=
  .skip (.accept _) fun _ => .ite (.bind h.bitOr fun _ hx => .pure (.wrap rfl rfl hx)) hp

theorem gives_starNamedExpression : Gives Patternless (starNamedExpression r) := h.gives_starOr h.gives_namedExpression

theorem gives_starExpression : Gives Patternless (starExpression r) := h.gives_starOr h.expression

theorem gives_starExpressions : Gives Patternless (starExpressions r) :=
  .bind (.commaList h.gives_starExpression) fun _ hitems => .pure (patternless_tupleIf hitems)

theorem gives_yieldExpression : Gives Patternless (yieldExpression r) := by
  refine .skip (.expect _) fun _ => .skip (.accept _) fun _ => .ite ?_ ?_
  · exact .bind h.expression fun x hx => .pure (.wrap rfl rfl hx)
  · refine .skip .peekKind fun _ => .ite ?_ ?_
    · exact .bind h.gives_starExpressions fun x hx => .pure (.wrap rfl rfl hx)
    · exact .pure (.wrap rfl rfl patternless_absent)

theorem gives_yieldOrExpressions : Gives Patternless (yieldOrExpressions r) :=
  .skip (.nextIs _) fun _ => .ite h.gives_yieldExpression h.gives_starExpressions

/-! ## Comprehensions and displays -/

theorem gives_clause : Gives Patternless (clause r) := by
  refine .skip (.accept _) fun _ => .skip (.expect _) fun _ => .bind h.gives_starTargets fun target htarget => ?_
  refine .skip (.expect _) fun _ => .bind h.disjunction fun source hsource => ?_
  refine .bind (.collect (.accept _) h.disjunction (List.forall_mem_nil _)) fun conditions hconditions => ?_
  exact .pure (.node rfl (List.forall_mem_cons.2 ⟨htarget, List.forall_mem_cons.2 ⟨hsource, hconditions⟩⟩))

theorem gives_clauses : GivesEach Patternless (clauses r) :=
  .bind h.gives_clause fun _ hfirst => .collect .peekKind h.gives_clause (List.forall_mem_singleton.2 hfirst)

/-- A comprehension after its results, up to the closing sign. -/
theorem gives_comprehension {results : List Node} (hresults : ∀ n ∈ results, n.Patternless) {close : Punct} :
    Gives Patternless (do
      let cs ← clauses r
      expectPunct close
      return .comprehension results cs) :=
  .bind h.gives_clauses fun _ hcs => .skip (.expect _) fun _ =>
    .pure (.node rfl (List.forall_mem_append.2 ⟨hresults, hcs⟩))

theorem gives_parenthesized : Gives Patternless (parenthesized r) := by
  refine .skip (.expect _) fun _ => .skip (.accept _) fun _ => .ite (.pure (.leaf rfl rfl)) ?_
  refine .skip (.nextIs _) fun _ => .ite ?_ ?_
  · exact .bind h.gives_yieldExpression fun y hy => .skip (.expect _) fun _ => .pure hy
  refine .bind h.gives_starNamedExpression fun first hfirst => .skip .peekKind fun _ => ?_
  refine .ite (h.gives_comprehension (List.forall_mem_singleton.2 hfirst)) ?_
  refine .skip (.accept _) fun _ => .ite ?_ (.ite .fail (.skip (.expect _) fun _ => .pure hfirst))
  refine .skip .peekKind fun _ => .ite ?_ (.skip (.expect _) fun _ => .pure (.wrap rfl rfl hfirst))
  refine .bind (.commaList h.gives_starNamedExpression) fun items hitems => .skip (.expect _) fun _ => ?_
  exact .pure (.node rfl (List.forall_mem_cons.2 ⟨hfirst, hitems⟩))

theorem gives_moreItems : GivesEach Patternless (bracketed.moreItems r) := by
  refine .skip (.accept _) fun _ => .ite ?_ (.pure (List.forall_mem_nil _))
  refine .skip .peekKind fun _ => .ite ?_ (.pure (List.forall_mem_nil _))
  exact .bind (.commaList h.gives_starNamedExpression) fun items hitems => .pure hitems

theorem gives_bracketed : Gives Patternless (bracketed r) := by
  refine .skip (.expect _) fun _ => .skip (.accept _) fun _ => .ite (.pure (.leaf rfl rfl)) ?_
  refine .bind h.gives_starNamedExpression fun first hfirst => .skip .peekKind fun _ => ?_
  refine .ite (h.gives_comprehension (List.forall_mem_singleton.2 hfirst)) ?_
  refine .bind h.gives_moreItems fun rest hrest => .skip (.expect _) fun _ => ?_
  exact .pure (.node rfl (List.forall_mem_cons.2 ⟨hfirst, hrest⟩))

theorem gives_dictItem : Gives (fun p => p.1.Patternless ∧ p.2.Patternless) (dictItem r) := by
  refine .skip (.accept _) fun _ => .ite ?_ ?_
  · exact .bind h.bitOr fun x hx => .pure ⟨patternless_absent, hx⟩
  · refine .bind h.expression fun key hkey => .skip (.expect _) fun _ => ?_
    exact .bind h.expression fun value hvalue => .pure ⟨hkey, hvalue⟩

theorem gives_braced : Gives Patternless (braced r) := by
  have items : Gives (fun items => ∀ p ∈ items.1, p.1.Patternless ∧ p.2.Patternless) (commaList startsPair (dictItem r)) :=
    .commaList h.gives_dictItem
  refine .skip (.expect _) fun _ => .skip (.accept _) fun _ => .ite (.pure (.leaf rfl rfl)) ?_
  refine .skip (.nextIs _) fun _ => .ite ?_ ?_
  · exact .bind items fun items hitems => .skip (.expect _) fun _ => .pure (patternless_dictOf hitems)
  refine .skip passes_inlineTarget fun inline => .bind h.gives_starNamedExpression fun first hfirst => ?_
  refine .skip (.nextIs _) fun _ => .ite ?_ ?_
  · refine .skip .advance fun _ => .bind h.expression fun value hvalue => ?_
    have single : Gives Patternless (do
        expectPunct .rbrace
        return dictOf [(first, value)]) :=
      .skip (.expect _) fun _ => .pure (patternless_dictOf (List.forall_mem_singleton.2 ⟨hfirst, hvalue⟩))
    refine .skip .peekKind fun _ => .ite ?_ ?_
    · exact h.gives_comprehension (List.forall_mem_cons.2 ⟨hfirst, List.forall_mem_singleton.2 hvalue⟩)
    refine .skip (.accept _) fun _ => .ite (.skip .peekKind fun _ => .ite ?_ single) single
    refine .bind items fun items hitems => .skip (.expect _) fun _ => ?_
    exact .pure (patternless_dictOf (List.forall_mem_cons.2 ⟨⟨hfirst, hvalue⟩, hitems⟩))
  · refine .skip .peekKind fun _ => .ite (h.gives_comprehension (List.forall_mem_singleton.2 hfirst)) ?_
    refine .bind h.gives_moreItems fun rest hrest => .skip (.expect _) fun _ => ?_
    exact .pure (.node rfl (List.forall_mem_cons.2 ⟨hfirst, hrest⟩))

/-! ## Calls and subscripts -/

theorem gives_argument {a : Arguments} (read : ArgumentsPlain a) : Gives ArgumentsPlain (argument r a) := by
  have positional : Gives ArgumentsPlain (argument.positional r a) := by
    refine .ite .fail (.bind h.gives_namedExpression fun x hx => .skip (.nextIs _) fun _ => .ite .fail ?_)
    exact .pure ⟨List.forall_mem_cons.2 ⟨hx, read.positional⟩, read.keywords⟩
  have keyword {arg : Option String} {v : Node} (hv : v.Patternless) :
      ∀ k ∈ .keyword arg v :: a.keywords, k.Patternless :=
    List.forall_mem_cons.2 ⟨.wrap rfl rfl hv, read.keywords⟩
  refine .skip (.accept _) fun _ => .ite ?_ ?_
  · exact .bind h.expression fun v hv => .pure ⟨read.positional, keyword hv⟩
  refine .skip (.nextIs _) fun _ => .ite (.ite .fail ?_) ?_
  · refine .skip .advance fun _ => .bind h.expression fun v hv => ?_
    exact .pure ⟨List.forall_mem_cons.2 ⟨.wrap rfl rfl hv, read.positional⟩, read.keywords⟩
  · refine .skip .peekKind fun kind => ?_
    split
    · refine .skip .peekSecond fun _ => .ite ?_ positional
      refine .skip .advance fun _ => .skip .advance fun _ => .bind h.expression fun v hv => ?_
      exact .pure ⟨read.positional, keyword hv⟩
    · exact positional

theorem gives_moreArguments {a : Arguments} (read : ArgumentsPlain a) : Gives ArgumentsPlain (moreArguments r a) := by
  refine .loop read fun b hb => .skip (.accept _) fun _ => .ite (.skip .peekKind fun _ => .ite ?_ ?_) ?_
  · exact .bind (h.gives_argument hb) fun c hc => .pure hc
  · exact .pure hb
  · exact .pure hb

theorem gives_arguments :
    Gives (fun a => (∀ n ∈ a.1, n.Patternless) ∧ ∀ n ∈ a.2, n.Patternless) (arguments r) := by
  refine .skip .peekKind fun _ => .ite ?_ (.pure ⟨List.forall_mem_nil _, List.forall_mem_nil _⟩)
  refine .bind (h.gives_argument .empty) fun a ha => .bind (h.gives_moreArguments ha) fun b hb => ?_
  exact .pure hb.reverse

theorem gives_callArguments :
    Gives (fun a => (∀ n ∈ a.1, n.Patternless) ∧ ∀ n ∈ a.2, n.Patternless) (callArguments r) := by
  have none : (∀ n ∈ ([] : List Node), n.Patternless) := List.forall_mem_nil _
  refine .skip .peekKind fun _ => .ite ?_ (.skip (.expect _) fun _ => .pure ⟨none, none⟩)
  refine .bind (h.gives_argument .empty) fun a ha => .skip .peekKind fun _ => ?_
  split
  · next e hpositional _ =>
    have he : e.Patternless := ha.positional e (by rw [hpositional]; exact List.mem_cons_self)
    refine .ite .fail (.bind h.gives_clauses fun cs hcs => .skip (.expect _) fun _ => .pure ⟨?_, none⟩)
    exact List.forall_mem_singleton.2 (.node rfl (List.forall_mem_cons.2 ⟨he, hcs⟩))
  · exact .bind (h.gives_moreArguments ha) fun b hb => .skip (.expect _) fun _ => .pure hb.reverse

theorem gives_slice : Gives Patternless (slice r) := by
  have bound : Gives Patternless (slice.bound r) :=
    .skip .peekKind fun _ => .ite h.expression (.pure patternless_absent)
  have bounds {lower : Node} (hlower : lower.Patternless) : Gives Patternless (slice.bounds r lower) := by
    have operation {upper step : Node} (hupper : upper.Patternless) (hstep : step.Patternless) :
        (Node.operation [lower, upper, step]).Patternless :=
      .node rfl (List.forall_mem_cons.2 ⟨hlower, List.forall_mem_cons.2 ⟨hupper, List.forall_mem_singleton.2 hstep⟩⟩)
    refine .skip (.expect _) fun _ => .bind bound fun upper hupper => .skip (.accept _) fun _ => .ite ?_ ?_
    · exact .bind bound fun step hstep => .pure (operation hupper hstep)
    · exact .pure (operation hupper patternless_absent)
  refine .skip (.nextIs _) fun _ => .ite ?_ ?_
  · exact .skip .advance fun _ => .bind h.expression fun x hx => .pure (.wrap rfl rfl hx)
  refine .skip (.nextIs _) fun _ => .ite (bounds patternless_absent) ?_
  refine .skip passes_inlineTarget fun _ => .bind h.gives_namedExpression fun first hfirst => ?_
  exact .skip (.nextIs _) fun _ => .ite (bounds hfirst) (.pure hfirst)

theorem gives_slices : Gives Patternless (slices r) := by
  refine .bind (.commaList h.gives_slice) fun items hitems => ?_
  split
  · exact .pure (.node rfl hitems)
  · exact .pure (patternless_tupleIf hitems)

/-! ## Parameters -/

theorem gives_typeExpr (k : ParameterRules) (starred : Bool) : Gives Patternless (typeExpr r k starred) := by
  refine .ite (.skip (.accept _) fun _ => .ite ?_ ?_) (.pure patternless_absent)
  · exact .ite h.gives_starExpression h.expression
  · exact .pure patternless_absent

theorem gives_defaultValue : Gives (fun d => ∀ x ∈ d, x.Patternless) (defaultValue? r) := by
  refine .skip (.accept _) fun _ => .ite ?_ (.pure fun _ hx => nomatch hx)
  exact .bind h.expression fun x hx => .pure fun y hy => Option.some.inj hy ▸ hx

theorem gives_keywordRest {k : ParameterRules} {p : Parameters} (read : ParametersPlain p) :
    Gives ParametersPlain (keywordRest r k p) := by
  refine .skip .name fun id => .bind (h.gives_typeExpr k false) fun a ha => .skip (passes_separator k) fun _ => ?_
  refine .skip (.nextIs _) fun _ => .ite (.pure ?_) .fail
  exact { read with keywords := List.forall_mem_singleton.2 (.wrap rfl rfl ha) }

theorem gives_namedOnly {k : ParameterRules} {need : Bool} {p : Parameters} (read : ParametersPlain p) :
    Gives ParametersPlain (namedOnly r k need p) := by
  refine .loop (I := fun acc => ParametersPlain acc.2) read fun acc hacc => .skip .peekKind fun kind => ?_
  obtain ⟨need, p⟩ := acc
  split
  · refine .skip .advance fun _ => .bind (h.gives_typeExpr k false) fun a ha => ?_
    refine .bind h.gives_defaultValue fun d hd => .skip (passes_separator k) fun _ => .pure ?_
    have value : (d.getD .absent).Patternless := by
      cases d with
      | none => exact patternless_absent
      | some x => exact hd x rfl
    exact { hacc with
      named := List.forall_mem_cons.2 ⟨.wrap rfl rfl ha, hacc.named⟩
      namedDefaults := List.forall_mem_cons.2 ⟨value, hacc.namedDefaults⟩ }
  · refine .ite .fail (.skip .advance fun _ => .bind (h.gives_keywordRest hacc) fun q hq => .pure hq)
  · exact .ite .fail (.pure hacc)

theorem gives_afterStar {k : ParameterRules} {p : Parameters} (read : ParametersPlain p) :
    Gives ParametersPlain (afterStar r k p) := by
  refine .skip (.accept _) fun _ => .ite (h.gives_namedOnly read) ?_
  refine .skip .name fun id => .bind (h.gives_typeExpr k true) fun a ha => .skip (passes_separator k) fun _ => ?_
  exact h.gives_namedOnly { read with rest := List.forall_mem_singleton.2 (.wrap rfl rfl ha) }

theorem gives_parameters (k : ParameterRules) : Gives Patternless (parameters r k) := by
  refine Gives.bind (P := ParametersPlain) ?_ fun p hp => .pure hp.node
  refine .loop (I := fun acc => ParametersPlain acc.2) .empty fun acc hacc => .skip .peekKind fun kind => ?_
  obtain ⟨slashed, p⟩ := acc
  split
  · refine .skip .advance fun _ => .bind (h.gives_typeExpr k false) fun a ha => ?_
    refine .bind h.gives_defaultValue fun d hd => .skip (passes_separator k) fun _ => ?_
    split
    · exact .fail
    · exact .pure { hacc with
        positional := List.forall_mem_cons.2 ⟨.wrap rfl rfl ha, hacc.positional⟩
        defaults := List.forall_mem_append.2 ⟨fun x hx => hd x (Option.mem_toList.1 hx), hacc.defaults⟩ }
  · exact .ite .fail (.skip .advance fun _ => .skip (passes_separator k) fun _ => .pure hacc)
  · exact .skip .advance fun _ => .bind (h.gives_afterStar hacc) fun q hq => .pure hq
  · exact .skip .advance fun _ => .bind (h.gives_keywordRest hacc) fun q hq => .pure hq
  · exact .pure hacc

theorem gives_lambdaExpression : Gives Patternless (lambdaExpression r) := by
  refine .skip (.expect _) fun _ => .bind (h.gives_parameters _) fun p hp => .skip (.expect _) fun _ => ?_
  exact .bind h.expression fun body hbody => .pure (.join rfl rfl hp hbody)

/-! ## From atoms to expressions -/

theorem gives_atom : Gives Patternless (atom r) := by
  refine .skip .peekKind fun kind => ?_
  have constant : Gives Patternless (do
      advance
      return .constant) := .skip .advance fun _ => .pure patternless_constant
  split
  · exact .skip .advance fun _ => .pure (patternless_name _)
  · exact constant
  · exact constant
  · exact constant
  · exact constant
  · exact .skip .advance fun _ => gives_numberLiteral _
  · exact gives_strings h.gives_starExpressions
  · exact h.gives_parenthesized
  · exact h.gives_bracketed
  · exact h.gives_braced
  · exact .fail

theorem gives_primaryRule : Gives Patternless (primaryRule r) := by
  refine .bind h.gives_atom fun first hfirst => .loop hfirst fun x hx => .skip .peekKind fun kind => ?_
  split
  · exact .skip .advance fun _ => .skip .name fun _ => .pure (Patternless.wrap rfl rfl hx)
  · refine .skip .advance fun _ => .bind h.gives_callArguments fun a ha => .pure (Patternless.node rfl ?_)
    exact List.forall_mem_append.2 ⟨List.forall_mem_cons.2 ⟨hx, ha.1⟩, ha.2⟩
  · refine .skip .advance fun _ => .bind h.gives_slices fun index hindex => .skip (.expect _) fun _ => ?_
    exact .pure (Patternless.join rfl rfl hx hindex)
  · exact .pure hx

theorem gives_awaitPrimary : Gives Patternless (awaitPrimary r) := by
  refine .skip (.nextIs _) fun _ => .ite ?_ h.gives_primaryRule
  refine .skip .here fun start => .skip .advance fun _ => .bind h.gives_primaryRule fun x hx => ?_
  exact .skip (.spanFrom _) fun span => .pure (.wrap rfl rfl hx)

theorem gives_factorRule : Gives Patternless (factorRule r) := by
  refine .skip .peekKind fun kind => ?_
  have signed : Gives Patternless (do
      advance
      return .operation [← r.factor]) := .skip .advance fun _ => .bind h.factor fun _ hx => .pure (.wrap rfl rfl hx)
  split
  · exact signed
  · exact signed
  · exact signed
  · refine .bind h.gives_awaitPrimary fun base hbase => .skip (.accept _) fun _ => .ite ?_ (.pure hbase)
    exact .bind h.factor fun x hx => .pure (.join rfl rfl hbase hx)

theorem gives_bitOrRule : Gives Patternless (bitOrRule r) := gives_binary h.gives_factorRule binaryLevels

theorem gives_comparison : Gives Patternless (comparison r) :=
  .bind h.gives_bitOrRule fun _ hfirst =>
    gives_operands passes_comparisonSign h.gives_bitOrRule hfirst .operation fun _ plain => .node rfl plain

theorem gives_inversionRule : Gives Patternless (inversionRule r) :=
  .skip (.accept _) fun _ => .ite (.bind h.inversion fun _ hx => .pure (.wrap rfl rfl hx)) h.gives_comparison

theorem gives_disjunctionRule : Gives Patternless (disjunctionRule r) :=
  gives_joined .or (gives_joined .and h.gives_inversionRule)

theorem gives_expressionRule : Gives Patternless (expressionRule r) := by
  refine .skip (.nextIs _) fun _ => .ite h.gives_lambdaExpression ?_
  refine .bind h.gives_disjunctionRule fun body hbody => .skip (.accept _) fun _ => .ite ?_ (.pure hbody)
  refine .bind h.gives_disjunctionRule fun test htest => .skip (.expect _) fun _ => ?_
  refine .bind h.expression fun other hother => .pure (.node rfl ?_)
  exact List.forall_mem_cons.2 ⟨htest, List.forall_mem_cons.2 ⟨hbody, List.forall_mem_singleton.2 hother⟩⟩

end Rules.WellSorted

end Grammar

end AwaitLint
