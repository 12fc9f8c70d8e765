import AwaitLint.Proofs.PatternTrees

/-! # Patterns in the trees of texts

Statements hold patterns only as the rules for patterns give them, at the cases of a `match` statement. So a walk of the
tree of a text meets no other patterns, and the names that each of them binds are those with which it captures.
-/

namespace AwaitLint.Grammar

open AwaitLint.Node (Patternless IsPattern WellSorted patternless_absent)
open AwaitLint.Grammar.Parser

theorem gives_compound {parts : List Node} (h : ∀ n ∈ parts, n.WellSorted) :
    Gives WellSorted (pure (.compound parts)) :=
  .pure (.node rfl h)

/-- A statement without parts. -/
theorem gives_empty : Gives WellSorted (pure (.compound [])) := gives_compound (List.forall_mem_nil _)

theorem wellSorted_branches {branches : List (Node × List Node)} {rest : List Node}
    (h : ∀ b ∈ branches, b.1.Patternless ∧ ∀ n ∈ b.2, n.WellSorted) (hrest : ∀ n ∈ rest, n.WellSorted) :
    ∀ n ∈ branches.foldl (fun rest b => [.compound (b.1 :: b.2 ++ rest)]) rest, n.WellSorted := by
  induction branches generalizing rest with
  | nil => exact hrest
  | cons b branches ih =>
    obtain ⟨⟨test, body⟩, later⟩ := List.forall_mem_cons.1 h
    refine ih later (List.forall_mem_singleton.2 (.node rfl ?_))
    exact List.forall_mem_append.2 ⟨List.forall_mem_cons.2 ⟨test.wellSorted, body⟩, hrest⟩

theorem passes_dottedName : Passes dottedName :=
  .bind .name fun _ => .loop (fun _ => .bind (.accept _) fun _ => .ite (.bind .name fun _ => .pure) .pure) _

theorem passes_alias : Passes alias? :=
  .bind (.accept _) fun _ => .ite (.bind .name fun _ => .pure) .pure

theorem passes_strictList {item : Parser Unit} (hi : Passes item) : Passes (strictList item) :=
  .bind hi fun _ => .loop (fun _ => .bind (.accept _) fun _ => .ite (.bind hi fun _ => .pure) .pure) _

theorem gives_importStatement : Gives WellSorted importStatement := by
  refine .skip .advance fun _ => .skip (passes_strictList ?_) fun _ => gives_empty
  exact .bind passes_dottedName fun _ => passes_alias

theorem gives_fromStatement : Gives WellSorted fromStatement := by
  have item : Passes (do
      let _ ← name
      alias?) := .bind .name fun _ => passes_alias
  refine .skip .advance fun _ => .skip (Passes.loop (fun n => .bind .peekKind fun kind => ?_) _) fun dots => ?_
  · split
    · exact .bind .advance fun _ => .pure
    · exact .bind .advance fun _ => .pure
    · exact .pure
  · refine .skip .peekKind fun kind => .optional passes_dottedName fun _ => .skip (.expect _) fun _ => ?_
    refine .skip (.accept _) fun _ => .ite gives_empty (.skip (.accept _) fun _ => .ite ?_ ?_)
    · exact .skip (Gives.commaList item).passes fun _ => .skip (.expect _) fun _ => gives_empty
    · exact .skip (passes_strictList item) fun _ => gives_empty

namespace Rules.WellSorted

variable {r : Rules} (h : r.WellSorted)

include h

/-! ## Simple statements -/

theorem gives_expressionStatement (start : Mark) : Gives Node.WellSorted (expressionStatement r start) := by
  refine .bind h.gives_yieldOrExpressions fun first hfirst => .skip .peekKind fun kind => ?_
  split
  · refine .ite (.skip .advance fun _ => .bind h.expression fun typeExpr htype => ?_) .fail
    have annotated {value : Node} (hvalue : value.Patternless) : Gives Node.WellSorted (do
        return .annAssign (← spanFrom start) first typeExpr value) := by
      refine .skip (.spanFrom _) fun span => .pure (Patternless.wellSorted (.node rfl ?_))
      exact List.forall_mem_cons.2 ⟨hfirst, List.forall_mem_cons.2 ⟨htype, List.forall_mem_singleton.2 hvalue⟩⟩
    refine .skip (.accept _) fun _ => .ite ?_ (annotated patternless_absent)
    exact .bind h.gives_yieldOrExpressions fun value hvalue => annotated hvalue
  · refine Gives.bind (P := fun a => (∀ n ∈ a.1, n.Patternless) ∧ a.2.Patternless) ?_ fun a ha => ?_
    · refine .loop (I := fun acc : List Node × Node => (∀ n ∈ acc.1, n.Patternless) ∧ acc.2.Patternless)
        ⟨List.forall_mem_nil _, hfirst⟩ fun acc hacc => .skip (.nextIs _) fun _ => .ite (.ite ?_ .fail) ?_
      · refine .skip .advance fun _ => .bind h.gives_yieldOrExpressions fun next hnext => ?_
        exact .pure ⟨List.forall_mem_cons.2 ⟨hacc.2, hacc.1⟩, hnext⟩
      · exact .pure ⟨forall_mem_reverse hacc.1, hacc.2⟩
    · refine .skip (.spanFrom _) fun span => .pure (Patternless.wellSorted (.node rfl ?_))
      exact List.forall_mem_append.2 ⟨ha.1, List.forall_mem_singleton.2 ha.2⟩
  · refine .ite (.skip .advance fun _ => .bind h.gives_yieldOrExpressions fun value hvalue => ?_) .fail
    exact .pure (Patternless.join rfl rfl hfirst hvalue).wellSorted
  · exact .skip (.spanFrom _) fun span => .pure (Patternless.wrap rfl rfl hfirst).wellSorted

theorem gives_deleteStatement : Gives Node.WellSorted (deleteStatement r) := by
  have item : Gives Patternless (do
      let x ← r.primary
      if isDeletable x then return x else fail) := .bind h.primary fun _ hx => .ite (.pure hx) .fail
  refine .skip .advance fun _ => .bind (.commaList item) fun items hitems => .skip .peekKind fun kind => ?_
  have deleted : Gives Node.WellSorted (pure (.compound items.1)) := gives_compound fun n hn => (hitems n hn).wellSorted
  split
  · exact deleted
  · exact deleted
  · exact .fail

theorem gives_simpleStatement : Gives Node.WellSorted (simpleStatement r) := by
  have single {x : Node} (hx : x.Patternless) : Gives Node.WellSorted (pure (.compound [x])) :=
    .pure (Patternless.wrap rfl rfl hx).wellSorted
  have pair {x : Node} (hx : x.Patternless) : Gives Node.WellSorted (do return .compound [x, ← r.expression]) :=
    .bind h.expression fun y hy => .pure (Patternless.join rfl rfl hx hy).wellSorted
  have word : Gives Node.WellSorted (do
      advance
      return .compound []) := .skip .advance fun _ => gives_empty
  have names : Gives Node.WellSorted (do
      advance
      strictList do
        let _ ← name
      return .compound []) :=
    .skip .advance fun _ => .skip (passes_strictList (.bind .name fun _ => .pure)) fun _ => gives_empty
  refine .skip .here fun start => .skip .peekKind fun kind => ?_
  split
  · refine .skip .advance fun _ => .skip .peekKind fun _ => .ite ?_ gives_empty
    exact .bind h.gives_starExpressions fun x hx => single hx
  · exact gives_importStatement
  · exact gives_fromStatement
  · refine .skip .advance fun _ => .skip .peekKind fun _ => .ite ?_ gives_empty
    exact .bind h.expression fun x hx => .skip (.accept _) fun _ => .ite (pair hx) (single hx)
  · exact word
  · exact word
  · exact word
  · exact h.gives_deleteStatement
  · refine .skip .advance fun _ => .bind h.expression fun x hx => ?_
    exact .skip (.accept _) fun _ => .ite (pair hx) (single hx)
  · exact names
  · exact names
  · exact h.gives_expressionStatement start

theorem gives_simpleStatements : GivesEach Node.WellSorted (simpleStatements r) := by
  refine .bind h.gives_simpleStatement fun first hfirst => ?_
  refine .loop (I := fun acc : List Node => ∀ n ∈ acc, n.WellSorted) (List.forall_mem_singleton.2 hfirst) ?_
  intro acc hacc
  have done : ∀ n ∈ acc.reverse, n.WellSorted := forall_mem_reverse hacc
  refine .skip (.accept _) fun _ => .ite ?_ (.skip (.expect _) fun _ => .pure done)
  exact .skip (.accept _) fun _ => .ite (.pure done) (.next h.gives_simpleStatement hacc)

/-! ## Compound statements -/

/-- A block behind a keyword, if the keyword is there. -/
theorem gives_keywordBlock (k : Keyword) : GivesEach Node.WellSorted (do
    if ← acceptKeyword k then
      expectPunct .colon
      r.block
    else return []) :=
  .skip (.accept _) fun _ => .ite (.skip (.expect _) fun _ => h.block) (.pure (List.forall_mem_nil _))

theorem gives_elseBlock : GivesEach Node.WellSorted (elseBlock? r) := h.gives_keywordBlock _

theorem gives_finallyBlock : GivesEach Node.WellSorted (finallyBlock? r) := h.gives_keywordBlock _

theorem gives_branch : Gives (fun b => b.1.Patternless ∧ ∀ n ∈ b.2, n.WellSorted) (branch r) := by
  refine .skip .advance fun _ => .bind h.gives_namedExpression fun test htest => ?_
  exact .skip (.expect _) fun _ => .bind h.block fun body hbody => .pure ⟨htest, hbody⟩

theorem gives_ifStatement : Gives Node.WellSorted (ifStatement r) := by
  refine .bind h.gives_branch fun first hfirst => ?_
  refine Gives.bind (P := fun bs => ∀ b ∈ bs, b.1.Patternless ∧ ∀ n ∈ b.2, n.WellSorted) ?_ fun branches hbranches => ?_
  · refine .loop (I := fun bs : List (Node × List Node) => ∀ b ∈ bs, b.1.Patternless ∧ ∀ n ∈ b.2, n.WellSorted)
      (List.forall_mem_singleton.2 hfirst) fun acc hacc => .skip (.nextIs _) fun _ => .ite ?_ (.pure hacc)
    exact .next h.gives_branch hacc
  · refine .bind h.gives_elseBlock fun alternative halternative => ?_
    have sorted := wellSorted_branches hbranches halternative
    split
    · next x rest heq =>
      rw [heq] at sorted
      exact .pure (sorted x List.mem_cons_self)
    · exact .fail

theorem gives_whileStatement : Gives Node.WellSorted (whileStatement r) := by
  refine .bind h.gives_branch fun b hb => .bind h.gives_elseBlock fun alternative halternative => ?_
  exact gives_compound (List.forall_mem_append.2 ⟨List.forall_mem_cons.2 ⟨hb.1.wellSorted, hb.2⟩, halternative⟩)

theorem gives_forStatement : Gives Node.WellSorted (forStatement r) := by
  refine .skip (.expect _) fun _ => .bind h.gives_starTargets fun target htarget => ?_
  refine .skip (.expect _) fun _ => .bind h.gives_starExpressions fun source hsource => ?_
  refine .skip (.expect _) fun _ => .bind h.block fun body hbody => ?_
  refine .bind h.gives_elseBlock fun alternative halternative => gives_compound ?_
  refine List.forall_mem_append.2 ⟨List.forall_mem_cons.2 ⟨htarget.wellSorted, ?_⟩, halternative⟩
  exact List.forall_mem_cons.2 ⟨hsource.wellSorted, hbody⟩

theorem gives_withItem : Gives Node.WellSorted (withItem r) := by
  refine .bind h.expression fun x hx => .skip (.accept _) fun _ => .ite ?_ ?_
  · refine .bind h.gives_starTarget fun target htarget => .skip .peekKind fun kind => ?_
    have item : Gives Node.WellSorted (pure (.compound [x, target])) :=
      .pure (Patternless.join rfl rfl hx htarget).wellSorted
    split
    · exact item
    · exact item
    · exact item
    · exact .fail
  · exact .pure (Patternless.join rfl rfl hx patternless_absent).wellSorted

theorem gives_withItems : GivesEach Node.WellSorted (withItems r) := by
  refine .orElse ?_ ?_
  · refine .skip (.expect _) fun _ => .bind (.commaList h.gives_withItem) fun items hitems => ?_
    exact .skip (.expect _) fun _ => .skip (.nextIs _) fun _ => .ite (.pure hitems) .fail
  · refine .bind h.gives_withItem fun first hfirst => ?_
    exact .collect (.accept _) h.gives_withItem (List.forall_mem_singleton.2 hfirst)

theorem gives_withStatement : Gives Node.WellSorted (withStatement r) := by
  refine .skip (.expect _) fun _ => .bind h.gives_withItems fun items hitems => ?_
  refine .skip (.expect _) fun _ => .bind h.block fun body hbody => ?_
  exact gives_compound (List.forall_mem_append.2 ⟨hitems, hbody⟩)

theorem gives_handler (group : Bool) : Gives Node.WellSorted (handler r group) := by
  refine .skip .advance fun _ => .optional (.expect _) fun _ => .skip (.nextIs _) fun _ => ?_
  refine .ite ?_ ?_
  · exact .skip .advance fun _ => .bind h.block fun body hbody => gives_compound hbody
  · refine .bind h.expression fun kind hkind => .skip passes_alias fun _ => .skip (.expect _) fun _ => ?_
    exact .bind h.block fun body hbody => gives_compound (List.forall_mem_cons.2 ⟨hkind.wellSorted, hbody⟩)

theorem gives_tryStatement : Gives Node.WellSorted (tryStatement r) := by
  refine .skip (.expect _) fun _ => .skip (.expect _) fun _ => ?_
  refine .bind h.block fun body hbody => .skip (.nextIs _) fun _ => .ite ?_ ?_
  · refine .skip .peekSecond fun second => ?_
    refine .bind (.collect (.nextIs _) (h.gives_handler _) (List.forall_mem_nil _)) fun handlers hhandlers => ?_
    refine .bind h.gives_elseBlock fun rest hrest => .bind h.gives_finallyBlock fun final hfinal => gives_compound ?_
    refine List.forall_mem_append.2 ⟨List.forall_mem_append.2 ⟨?_, hrest⟩, hfinal⟩
    exact List.forall_mem_append.2 ⟨hbody, hhandlers⟩
  · refine .skip (.nextIs _) fun _ => .ite ?_ .fail
    exact .bind h.gives_finallyBlock fun final hfinal => gives_compound (List.forall_mem_append.2 ⟨hbody, hfinal⟩)

/-! ## Definitions -/

section Definitions

variable {decorators : List Node} (hd : ∀ d ∈ decorators, d.Patternless)

include hd

theorem gives_functionBody (async : Option Mark) (id : String) {params returns : Node}
    (hparams : params.Patternless) (hreturns : returns.Patternless) :
    Gives Node.WellSorted (functionBody r decorators async id params returns) := by
  refine .skip (.expect _) fun _ => .bind h.block fun body hbody => ?_
  have parts : ∀ n ∈ params :: body ++ decorators ++ [returns], n.WellSorted := by
    refine List.forall_mem_append.2 ⟨List.forall_mem_append.2 ⟨?_, fun d hmem => (hd d hmem).wellSorted⟩, ?_⟩
    · exact List.forall_mem_cons.2 ⟨hparams.wellSorted, hbody⟩
    · exact List.forall_mem_singleton.2 hreturns.wellSorted
  split
  · exact .skip (.spanFrom _) fun span => .pure (.node rfl parts)
  · exact gives_compound parts

theorem gives_functionStatement (async : Option Mark) :
    Gives Node.WellSorted (functionStatement r decorators async) := by
  refine .skip (.expect _) fun _ => .skip .name fun id => .skip (.expect _) fun _ => ?_
  refine .bind (h.gives_parameters _) fun params hparams => .skip (.expect _) fun _ => .skip (.accept _) fun _ => ?_
  refine .ite (.bind h.expression fun returns hreturns => ?_) ?_
  · exact h.gives_functionBody hd async id hparams hreturns
  · exact h.gives_functionBody hd async id hparams patternless_absent

theorem gives_classStatement : Gives Node.WellSorted (classStatement r decorators) := by
  refine .skip (.expect _) fun _ => .skip .name fun _ => .skip (.accept _) fun _ => ?_
  have rest (args : List Node × List Node) (hargs : (∀ n ∈ args.1, n.Patternless) ∧ ∀ n ∈ args.2, n.Patternless) :
      Gives Node.WellSorted (do
        expectPunct .colon
        let body ← r.block
        return .compound (args.1 ++ args.2 ++ body ++ decorators)) := by
    refine .skip (.expect _) fun _ => .bind h.block fun body hbody => gives_compound ?_
    refine List.forall_mem_append.2 ⟨List.forall_mem_append.2 ⟨?_, hbody⟩, fun d hmem => (hd d hmem).wellSorted⟩
    exact fun n hn => (List.forall_mem_append.2 hargs n hn).wellSorted
  refine .ite (.bind h.gives_arguments fun args hargs => .skip (.expect _) fun _ => rest args hargs) ?_
  exact rest ([], []) ⟨List.forall_mem_nil _, List.forall_mem_nil _⟩

theorem gives_asyncStatement : Gives Node.WellSorted (asyncStatement r decorators) := by
  refine .skip .here fun start => .skip .advance fun _ => .skip .peekKind fun kind => ?_
  split
  · exact h.gives_functionStatement hd (some start)
  · exact .ite h.gives_forStatement .fail
  · exact .ite h.gives_withStatement .fail
  · exact .fail

end Definitions

theorem gives_decorated : Gives Node.WellSorted (decorated r) := by
  refine Gives.bind (P := fun ns => ∀ n ∈ ns, n.Patternless) ?_ fun decorators hd => .skip .peekKind fun kind => ?_
  · refine .loop (I := fun acc : List Node => ∀ n ∈ acc, n.Patternless) (List.forall_mem_nil _) fun acc hacc => ?_
    refine .skip (.accept _) fun _ => .ite ?_ (.pure (forall_mem_reverse hacc))
    refine .bind h.gives_namedExpression fun x hx => .skip (.expect _) fun _ => ?_
    exact .pure (List.forall_mem_cons.2 ⟨hx, hacc⟩)
  · split
    · exact h.gives_functionStatement hd _
    · exact h.gives_classStatement hd
    · exact h.gives_asyncStatement hd
    · exact .fail

/-! ## Match statements -/

theorem gives_subject : Gives Patternless (subject r) := by
  refine .bind (.commaList h.gives_starNamedExpression) fun items hitems => ?_
  split
  · exact .ite .fail (.pure (hitems _ List.mem_cons_self))
  · exact .pure (.node rfl hitems)

theorem gives_caseBlock : Gives Node.WellSorted (caseBlock r) := by
  refine .skip (.nextIsWord _) fun _ => .ite (.skip .advance fun _ => ?_) .fail
  refine .bind h.gives_openSequence fun pattern hpattern => ?_
  have rest {guard : Node} (hguard : guard.Patternless) : Gives Node.WellSorted (do
      expectPunct .colon
      return .compound (pattern :: guard :: (← r.block))) := by
    refine .skip (.expect _) fun _ => .bind h.block fun body hbody => gives_compound ?_
    exact List.forall_mem_cons.2 ⟨hpattern.wellSorted, List.forall_mem_cons.2 ⟨hguard.wellSorted, hbody⟩⟩
  refine .skip (.accept _) fun _ => .ite ?_ (rest patternless_absent)
  exact .bind h.gives_namedExpression fun guard hguard => rest hguard

theorem gives_matchStatement : Gives Node.WellSorted (matchStatement r) := by
  refine .skip .advance fun _ => .bind h.gives_subject fun x hx => .skip (.expect _) fun _ => ?_
  refine .skip (.expect _) fun _ => .skip (.expect _) fun _ => .bind h.gives_caseBlock fun first hfirst => ?_
  refine .loop (I := fun acc : List Node => ∀ n ∈ acc, n.WellSorted) (List.forall_mem_singleton.2 hfirst) ?_
  intro acc hacc
  refine .skip (.accept _) fun _ => .ite ?_ (.next h.gives_caseBlock hacc)
  exact .pure (WellSorted.node rfl (List.forall_mem_cons.2 ⟨hx.wellSorted, forall_mem_reverse hacc⟩))

/-! ## Blocks -/

theorem gives_statement : GivesEach Node.WellSorted (statement r) := by
  have single {p : Parser Node} (hp : Gives Node.WellSorted p) : GivesEach Node.WellSorted (do return [← p]) :=
    .bind hp fun _ hn => .pure (List.forall_mem_singleton.2 hn)
  have undecorated : ∀ n ∈ ([] : List Node), n.Patternless := List.forall_mem_nil _
  refine .skip .peekKind fun kind => ?_
  split
  · exact single h.gives_ifStatement
  · exact single h.gives_whileStatement
  · exact single h.gives_forStatement
  · exact single h.gives_withStatement
  · exact single h.gives_tryStatement
  · exact single (h.gives_functionStatement undecorated _)
  · exact single (h.gives_classStatement undecorated)
  · exact single (h.gives_asyncStatement undecorated)
  · exact single h.gives_decorated
  · -- a line that starts with the word may turn out to be a simple statement
    refine .skip (.nextIsWord _) fun _ => .ite ?_ h.gives_simpleStatements
    exact .orElse (single h.gives_matchStatement) h.gives_simpleStatements
  · exact h.gives_simpleStatements

theorem gives_statementsUntil (close : TokenKind) : GivesEach Node.WellSorted (statementsUntil close r) := by
  refine Gives.bind (P := fun gs => ∀ g ∈ gs, ∀ n ∈ g, n.WellSorted) ?_ fun groups hgroups => ?_
  · refine .loop (I := fun acc : List (List Node) => ∀ g ∈ acc, ∀ n ∈ g, n.WellSorted) (List.forall_mem_nil _) ?_
    intro acc hacc
    refine .skip (.accept _) fun _ => .ite ?_ (.next h.gives_statement hacc)
    exact .pure (forall_mem_reverse hacc)
  · exact .pure (List.forall_mem_flatten.2 hgroups)

theorem gives_blockRule : GivesEach Node.WellSorted (blockRule r) :=
  .skip (.accept _) fun _ =>
    .ite (.skip (.expect _) fun _ => h.gives_statementsUntil .dedent) h.gives_simpleStatements

end Rules.WellSorted

/-- The rules for every depth give trees of their sorts. -/
theorem rules_wellSorted (depth : Nat) : (rules depth).WellSorted := by
  induction depth with
  | zero => constructor <;> exact .fail
  | succ depth ih =>
    exact {
      expression := ih.gives_expressionRule
      disjunction := ih.gives_disjunctionRule
      inversion := ih.gives_inversionRule
      bitOr := ih.gives_bitOrRule
      factor := ih.gives_factorRule
      primary := ih.gives_primaryRule
      pattern := ih.gives_patternRule
      block := ih.gives_blockRule }

theorem wellSorted_of_parseText {text : List Char} {tree : Node} (h : parseText text = .ok tree) :
    tree.WellSorted := by
  unfold parseText at h
  split at h
  · cases h
  dsimp only at h
  split at h
  · next body rest heq =>
    cases h
    have sorted : (Node.compound body).WellSorted :=
      .node rfl ((rules_wellSorted _).gives_statementsUntil _ heq (namesFilled_lexAt _ _)).2
    -- the labels are put on the finished tree
    exact sorted.number 0
  · cases h

/-- The names that a match pattern binds are those that the nodes on a generic walk of it capture with, at any depth, and
they stay the same whatever the pattern looks up. All patterns in the tree of a text are match patterns. -/
theorem patterns_bind_captured_names :
    (∀ p : Node, p.IsPattern →
      (∀ x, x ∈ p.binds ↔ ∃ o ∈ p.occurrences, o.node.captureName? = some x) ∧
        ∀ f g, (p.relookup f g).binds = p.binds) ∧
    ∀ text tree, parseText text = .ok tree → ∀ o ∈ tree.occurrences, o.node.isPattern = true → o.node.IsPattern := by
  constructor
  · intro p hp
    exact ⟨fun x => hp.mem_binds_iff, hp.binds_relookup⟩
  · intro text tree h
    exact wellSorted_of_parseText h

/-- A case whose pattern has parts and lookups of each kind. -/
def caseText : List Char :=
  "match v:\n case \x7b'id': uid, K.T: [a, *others], **rest\x7d | Point(x, y=C.R) as whole: pass\n".toList

/-- The pattern of the first case, where the text is a single `match` statement. -/
def firstPattern? (tree : Node) : Option Node := do
  let statement ← tree.children[0]?
  let first ← statement.children[1]?
  first.children[0]?

theorem exists_occurrence_firstPattern {tree p : Node} (h : firstPattern? tree = some p) :
    ∃ o ∈ tree.occurrences, o.node = p := by
  unfold firstPattern? at h
  obtain ⟨statement, hstatement, h⟩ := Option.bind_eq_some_iff.1 h
  obtain ⟨first, hfirst, hp⟩ := Option.bind_eq_some_iff.1 h
  have inside {n m p : Node} (hm : m ∈ n.children) (h : ∃ o ∈ m.occurrences, o.node = p) :
      ∃ o ∈ n.occurrences, o.node = p := by
    obtain ⟨o, ho, rfl⟩ := h
    exact ⟨_, Node.mem_occurrences.2 (.inr ⟨m, hm, o, ho, rfl⟩), rfl⟩
  refine inside (List.mem_of_getElem? hstatement) (inside (List.mem_of_getElem? hfirst) ?_)
  exact inside (List.mem_of_getElem? hp) ⟨_, Node.self_mem_occurrences p, rfl⟩

theorem patterns_bind_captured_names_caseText :
    ∃ tree p, parseText caseText = .ok tree ∧ firstPattern? tree = some p ∧ p.IsPattern ∧
      (∀ x, x ∈ ["whole", "uid", "a", "others", "rest", "x"] ↔ ∃ o ∈ p.occurrences, o.node.captureName? = some x) ∧
        ∀ f g, (p.relookup f g).binds = ["whole", "uid", "a", "others", "rest", "x"] := by
  have parses : ((parseText caseText).toOption.bind firstPattern?).map (fun p => (p.isPattern, p.binds)) =
      some (true, ["whole", "uid", "a", "others", "rest", "x"]) := by decide +kernel
  obtain ⟨p, found, facts⟩ := Option.map_eq_some_iff.1 parses
  obtain ⟨tree, htree, hp⟩ := Option.bind_eq_some_iff.1 found
  obtain ⟨kind, names⟩ := Prod.mk.inj facts
  have tree_eq : parseText caseText = .ok tree := by
    generalize parseText caseText = result at htree ⊢
    cases result with
    | error e => simp [Except.toOption] at htree
    | ok t => simpa [Except.toOption] using htree
  obtain ⟨o, ho, rfl⟩ := exists_occurrence_firstPattern hp
  have pattern := patterns_bind_captured_names.2 caseText tree tree_eq o ho kind
  obtain ⟨captured, relooked⟩ := patterns_bind_captured_names.1 o.node pattern
  rw [names] at captured relooked
  exact ⟨tree, o.node, tree_eq, hp, pattern, captured, relooked⟩

end AwaitLint.Grammar
