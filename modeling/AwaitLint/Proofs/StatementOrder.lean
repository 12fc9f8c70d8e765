import AwaitLint.Grammar.Statement
import AwaitLint.Proofs.ExpressionOrder

/-! # Patterns and statements in the order of the text

The rules for patterns and for statements read trees that lie in turn as well, so the rules for every depth do, and the
tree of a text is straight.
-/

namespace AwaitLint.Grammar

open AwaitLint.Node (Lies LieInTurn ArgumentsLie)
open AwaitLint.Grammar.Parser

/-- A parser for a statement. -/
abbrev Parser.ReadsStatement (p : Parser Node) : Prop := Reads (fun n => n.isStatement = true) p

/-- A parser for one or more statements. -/
abbrev Parser.ReadsBlock (p : Parser (List Node)) : Prop :=
  Brings (fun ns => ns) (fun ns => ns ≠ [] ∧ ∀ n ∈ ns, n.isStatement = true) p

/-- Groups of statements of which none is empty; if `some`, there is a group. -/
def AreGroups (some : Prop) (gs : List (List Node)) : Prop :=
  (some → gs ≠ []) ∧ ∀ g ∈ gs, g ≠ [] ∧ ∀ n ∈ g, n.isStatement = true

namespace AreGroups

variable {some : Prop} {gs : List (List Node)}

theorem nil : AreGroups False [] := ⟨False.elim, by simp⟩

theorem cons {other : Prop} (h : AreGroups other gs) {g : List Node} (hg : g ≠ [] ∧ ∀ n ∈ g, n.isStatement = true) :
    AreGroups some (g :: gs) :=
  ⟨fun _ => by simp, List.forall_mem_cons.2 ⟨hg, h.2⟩⟩

theorem reverse (h : AreGroups some gs) : AreGroups some gs.reverse :=
  ⟨fun hsome => by simpa using h.1 hsome, fun g hg => h.2 g (List.mem_reverse.1 hg)⟩

theorem statements (h : AreGroups some gs) : ∀ n ∈ gs.flatten, n.isStatement = true := by
  intro n hn
  obtain ⟨g, hg, hmem⟩ := List.mem_flatten.1 hn
  exact (h.2 g hg).2 n hmem

theorem ne_nil (h : AreGroups some gs) (hsome : some) : gs.flatten ≠ [] := by
  obtain ⟨g, gs', rfl⟩ := List.exists_cons_of_ne_nil (h.1 hsome)
  rw [List.flatten_cons]
  exact List.append_ne_nil_of_left_ne_nil (h.2 g List.mem_cons_self).1 _

end AreGroups

/-- The keys and patterns that have been read, in the order of the text. -/
def MappingItems.inTurn (m : MappingItems) : List Node := (m.keys.zip m.parts).reverse.flatMap fun p => [p.1, p.2]

theorem MappingItems.inTurn_cons (m : MappingItems) (key part : Node) :
    { m with keys := key :: m.keys, parts := part :: m.parts }.inTurn = m.inTurn ++ [key] ++ [part] := by
  simp [inTurn]

theorem MappingItems.lies {lo hi : Position} (m : MappingItems) (paired : m.keys.length = m.parts.length)
    (turn : LieInTurn lo hi m.inTurn) : Lies lo hi (.mappingPattern m.keys.reverse m.parts.reverse m.rest) := by
  have hkeys : (m.keys.zip m.parts).reverse.map Prod.fst = m.keys.reverse := by
    rw [List.map_reverse, List.map_fst_zip (Nat.le_of_eq paired)]
  have hparts : (m.keys.zip m.parts).reverse.map Prod.snd = m.parts.reverse := by
    rw [List.map_reverse, List.map_snd_zip (Nat.le_of_eq paired.symm)]
  have hlength : (m.keys.zip m.parts).reverse.length = m.keys.reverse.length := by rw [← hkeys, List.length_map]
  refine .of_pairs rfl rfl (by rw [hkeys, hparts]; rfl) (fun i j hi hj => ?_) turn
  rw [hlength] at hi ⊢
  exact .item hi hj

/-- The parts of a class pattern that have been read, after the class. -/
def ClassParts.inTurn (p : ClassParts) (cls : Node) : List Node := cls :: p.parts.reverse ++ p.attrParts.reverse

namespace Rules.Sound

variable {r : Rules} (h : r.Sound)

/-! ## Patterns -/

theorem moves_noCaptureSign : Moves noCaptureSign := by
  refine .bind .peekKind fun kind => ?_
  split
  · exact .fail
  · exact .fail
  · exact .fail
  · exact .pure

theorem moves_captureTarget : Moves captureTarget :=
  .bind (.nextIsWord _) fun _ => .ite .fail (.bind .name fun _ => .bind moves_noCaptureSign fun _ => .pure)

theorem moves_numberLiteral (form : NumberForm) : Moves (numberLiteral form) := by
  unfold numberLiteral
  split
  · exact .fail
  · exact .pure

theorem moves_signedNumber : Moves signedNumber := by
  refine .bind (.accept _) fun _ => .bind .peekKind fun kind => ?_
  split
  · exact .bind .advance fun _ => .bind (moves_numberLiteral _) fun _ => .pure
  · exact .fail

theorem moves_imaginaryPart : Moves imaginaryPart := by
  refine .bind .advance fun _ => .bind .peekKind fun kind => ?_
  split
  · exact .advance
  · exact .fail

theorem moves_numberPattern : Moves numberPattern := by
  refine .bind moves_signedNumber fun _ => .bind .peekKind fun kind => ?_
  split
  · exact .ite .fail moves_imaginaryPart
  · exact .ite .fail moves_imaginaryPart
  · exact .pure

theorem moves_partName : Moves partName? := by
  refine .bind .peekKind fun kind => ?_
  split
  · exact .bind .peekSecond fun _ => .pure
  · exact .pure

theorem after_dotted {lo : Position} {x : Node} : After lo [x] (dotted x) fun hi p => LieInTurn lo hi [p.1] := by
  refine .loop (fun acc => [acc.1]) (I := fun _ => True) rfl trivial fun acc _ => .skip (.accept _) fun _ => ?_
  refine .ite (fun _ => .skip .name fun _ => ?_) fun _ => .pure fun hi turn => turn
  exact .pure fun hi turn => ⟨readIn turn rfl rfl rfl, trivial⟩

include h

theorem brings_literal : Brings Option.toList (fun _ => True) (literal? r) := by
  refine .of_after fun lo => .skip .peekKind fun kind => ?_
  have constant {p : Parser Unit} (hp : Moves p) : After lo [] (do
      p
      return some .constant) fun hi d => LieInTurn lo hi d.toList ∧ True :=
    .skip hp fun _ => .leaf .constant rfl rfl rfl (.pure fun hi turn => ⟨turn, trivial⟩)
  split
  · exact constant moves_numberPattern
  · exact constant moves_numberPattern
  · exact .bring (reads_strings h.readsValue_starExpressions) fun x _ => .pure fun hi turn => ⟨turn, trivial⟩
  · exact constant .advance
  · exact constant .advance
  · exact constant .advance
  · exact .pure fun hi turn => ⟨turn, trivial⟩

theorem reads_maybeStarPattern : Reads (fun _ => True) (maybeStarPattern r) := by
  refine .of_after fun lo => .skip (.accept _) fun _ => .ite (fun _ => ?_) fun _ => ?_
  · refine .skip (.nextIsWord _) fun _ => .ite (fun _ => ?_) fun _ => ?_
    · refine .skip .advance fun _ => ?_
      exact .leaf (.captureRest .none) rfl rfl rfl (.pure fun hi turn => ⟨turn, trivial⟩)
    · refine .skip moves_captureTarget fun id => ?_
      exact .leaf (.captureRest (some id)) rfl rfl rfl (.pure fun hi turn => ⟨turn, trivial⟩)
  · exact .last h.pattern fun hi x hx turn => ⟨turn, trivial⟩

theorem reads_openSequence : Reads (fun _ => True) (openSequence r) := by
  refine .of_after fun lo => .bring (readsAll_commaList h.reads_maybeStarPattern) fun items _ => ?_
  split
  · exact .ite (fun _ => .fail) fun _ => .pure fun hi turn => ⟨turn, trivial⟩
  · exact .pure fun hi turn => ⟨readIn turn rfl rfl rfl, trivial⟩

theorem reads_mappingKey : Reads (fun _ => True) (mappingKey r) := by
  refine .of_after fun lo => .bring h.brings_literal fun key _ => ?_
  split
  · exact .pure fun hi turn => ⟨turn, trivial⟩
  · refine .skip .name fun id => .leaf (.name id) rfl rfl rfl fun mid turn => ?_
    refine (after_dotted turn).bind fun hi ⟨k, found⟩ _ hk => ?_
    cases found with
    | true => exact .pure ⟨hk, trivial⟩
    | false => exact .fail

theorem reads_mappingPattern : Reads (fun _ => True) (mappingPattern r) := by
  refine .of_after fun lo => .skip (.expect _) fun _ mid turn => ?_
  refine Yields.bind (P := fun hi (m : MappingItems) => LieInTurn lo hi m.inTurn ∧ m.keys.length = m.parts.length) ?_ ?_
  · refine After.loop MappingItems.inTurn (I := fun m => m.keys.length = m.parts.length) rfl rfl (fun m hm => ?_) turn
    refine .skip (.nextIs _) fun _ => .ite (fun _ => .pure fun hi turn => ⟨turn, hm⟩) fun _ => ?_
    refine .skip (.accept _) fun _ => .ite (fun _ => ?_) fun _ => ?_
    · exact .skip moves_captureTarget fun id => .skip (.accept _) fun _ => .pure fun hi turn => ⟨turn, hm⟩
    · refine .bring h.reads_mappingKey fun key _ => .skip (.expect _) fun _ => .bring h.pattern fun part _ => ?_
      have hturn (hi : Position) (turn : LieInTurn lo hi (m.inTurn ++ [key] ++ [part])) :
          LieInTurn lo hi { m with keys := key :: m.keys, parts := part :: m.parts }.inTurn :=
        MappingItems.inTurn_cons m key part ▸ turn
      have hlength : (key :: m.keys).length = (part :: m.parts).length := by simpa using hm
      refine .skip (.accept _) fun _ => .ite (fun _ => ?_) fun _ => ?_
      · exact .pure fun hi turn => ⟨hturn hi turn, hlength⟩
      · exact .pure fun hi turn => ⟨hturn hi turn, hlength⟩
  · rintro mid m - ⟨turn, hm⟩
    exact .skip (.expect _) fun hi _ hle => .pure ⟨.singleton ((m.lies hm turn).mono le_rfl hle), trivial⟩

theorem after_classPart {lo : Position} {cls : Node} {p : ClassParts} (hp : p.attrs.isEmpty = true → p.attrParts = []) :
    After lo (p.inTurn cls) (classPart r p) fun hi q =>
      LieInTurn lo hi (q.inTurn cls) ∧ (q.attrs.isEmpty = true → q.attrParts = []) := by
  refine .skip moves_partName fun named => ?_
  split
  · refine .skip .advance fun _ => .skip .advance fun _ => .bring h.pattern fun x _ => ?_
    refine .pure fun hi turn => ⟨?_, by simp⟩
    simpa [ClassParts.inTurn] using turn
  · refine .ite (fun hempty => .bring h.pattern fun x _ => .pure fun hi turn => ⟨?_, hp⟩) fun _ => .fail
    simpa [ClassParts.inTurn, hp hempty] using turn

theorem after_classParts {lo : Position} {cls : Node} :
    After lo [cls] (classParts r cls) fun hi n => LieInTurn lo hi [n] ∧ True := by
  refine .skip (.expect _) fun _ mid turn => ?_
  refine Yields.bind (P := fun hi (p : ClassParts) => LieInTurn lo hi (p.inTurn cls)) ?_ fun mid p _ turn => ?_
  · refine After.loop (fun p => p.inTurn cls) (I := fun p => p.attrs.isEmpty = true → p.attrParts = []) rfl (by simp)
      (fun p hp => ?_) turn
    refine .skip (.nextIs _) fun _ => .ite (fun _ => .pure fun hi turn => turn) fun _ mid turn => ?_
    refine (h.after_classPart hp turn).bind fun mid q _ hq => .skip (.accept _) fun hi _ hle => ?_
    have turn := hq.1.mono le_rfl hle
    split
    · exact .pure ⟨turn, hq.2⟩
    · exact .pure turn
  · exact .skip (.expect _) fun hi _ hle => .pure ⟨readIn (turn.mono le_rfl hle) rfl rfl rfl, trivial⟩

theorem reads_namePattern : Reads (fun _ => True) (namePattern r) := by
  refine .of_after fun lo => .skip (.nextIsWord _) fun _ => .ite (fun _ => .skip .advance fun _ => ?_) fun _ => ?_
  · exact .leaf .absent rfl rfl rfl (.pure fun hi turn => ⟨readIn turn rfl rfl rfl, trivial⟩)
  refine .skip .name fun id => .leaf (.name id) rfl rfl rfl fun mid turn => ?_
  refine (after_dotted turn).bind fun next ⟨x, found⟩ _ hx => ?_
  have rest : After lo [x] (do
      if ← nextIsPunct .lparen then classParts r x
      else if ← nextIsPunct .equal then fail
      else return if found then .valuePattern x else .capture (some id) .absent)
      fun hi n => LieInTurn lo hi [n] ∧ True := by
    refine .skip (.nextIs _) fun _ => .ite (fun _ => h.after_classParts) fun _ => ?_
    refine .skip (.nextIs _) fun _ => .ite (fun _ => .fail) fun _ => ?_
    cases found with
    | true => exact .pure fun hi turn => ⟨readIn turn rfl rfl rfl, trivial⟩
    | false =>
      exact .pure fun hi turn => ⟨.singleton (Lies.of_parts rfl rfl ⟨lo, .leaf rfl rfl rfl, turn.le⟩), trivial⟩
  exact rest hx

theorem reads_closedPattern : Reads (fun _ => True) (closedPattern r) := by
  refine .of_after fun lo => .bring h.brings_literal fun literal _ => ?_
  split
  · exact .pure fun hi turn => ⟨turn, trivial⟩
  · exact .pure fun hi turn => ⟨readIn turn rfl rfl rfl, trivial⟩
  refine .skip .peekKind fun kind => ?_
  have empty : After lo [] (pure (.patterns [])) fun hi n => LieInTurn lo hi [n] ∧ True :=
    .pure fun hi turn => ⟨readIn turn rfl rfl rfl, trivial⟩
  split
  · exact .last h.reads_namePattern fun hi x hx turn => ⟨turn, trivial⟩
  · refine .skip .advance fun _ => .skip (.accept _) fun _ => .ite (fun _ => empty) fun _ => ?_
    exact .bring h.reads_openSequence fun p _ => .skip (.expect _) fun _ => .pure fun hi turn => ⟨turn, trivial⟩
  · refine .skip .advance fun _ => .skip (.accept _) fun _ => .ite (fun _ => empty) fun _ => ?_
    refine .bring (readsAll_commaList h.reads_maybeStarPattern) fun items _ => .skip (.expect _) fun _ => ?_
    exact .pure fun hi turn => ⟨readIn turn rfl rfl rfl, trivial⟩
  · exact .last h.reads_mappingPattern fun hi x hx turn => ⟨turn, trivial⟩
  · exact .fail

theorem reads_patternRule : Reads (fun _ => True) (patternRule r) := by
  refine .of_after fun lo => .bring h.reads_closedPattern fun first _ mid turn => ?_
  refine Yields.bind (P := fun hi p => LieInTurn lo hi [p]) ?_ fun mid p _ turn => ?_
  · refine After.loop (fun acc => acc.reverse) (I := fun _ => True) rfl trivial (fun acc _ => ?_) turn
    refine .skip (.accept _) fun _ => .ite (fun _ => .bring h.reads_closedPattern fun x _ => ?_) fun _ => ?_
    · exact .next (by simp) trivial
    · split
      · exact .pure fun hi turn => turn
      · exact .pure fun hi turn => readIn turn rfl rfl rfl
  · have named : After lo [p] (do
        if ← acceptKeyword .as then return .capture (some (← captureTarget)) p else return p)
        fun hi n => LieInTurn lo hi [n] ∧ True := by
      refine .skip (.accept _) fun _ => .ite (fun _ => .skip moves_captureTarget fun id => ?_) fun _ => ?_
      · exact .pure fun hi turn => ⟨readIn turn rfl rfl rfl, trivial⟩
      · exact .pure fun hi turn => ⟨turn, trivial⟩
    exact named turn

/-! ## Simple statements -/

omit h in
theorem readsValue_absent : ReadsValue (pure .absent) :=
  .of_after fun _ => .leaf .absent rfl rfl rfl (.pure fun _ turn => ⟨turn, rfl⟩)

omit h in
/-- A statement whose parts have been read in order. -/
theorem after_compound {lo : Position} {parts : List Node} :
    After lo parts (pure (.compound parts)) fun hi n => LieInTurn lo hi [n] ∧ n.isStatement = true :=
  .pure fun _ turn => ⟨readIn turn rfl rfl rfl, rfl⟩

theorem readsStatement_expressionStatement (start : Mark) : ReadsStatement (expressionStatement r start) := by
  refine .of_after fun lo => .bring h.readsValue_yieldOrExpressions fun first _ => .skip .peekKind fun kind => ?_
  split
  · refine .ite (fun _ => .skip .advance fun _ => .bring h.expression fun typeExpr _ => ?_) fun _ => .fail
    refine .skip (.accept _) fun _ => .ite (fun _ => ?_) fun _ => ?_
    · refine .bring h.readsValue_yieldOrExpressions fun value _ => .skip (.spanFrom _) fun span => ?_
      exact .pure fun hi turn => ⟨readIn turn rfl rfl rfl, rfl⟩
    · refine .bring readsValue_absent fun value _ => .skip (.spanFrom _) fun span => ?_
      exact .pure fun hi turn => ⟨readIn turn rfl rfl rfl, rfl⟩
  · intro mid turn
    refine Yields.bind (P := fun hi a => LieInTurn lo hi (a.1 ++ [a.2])) ?_ fun mid a _ turn => ?_
    · refine After.loop (fun acc => acc.1.reverse ++ [acc.2]) (I := fun _ => True) rfl trivial (fun acc _ => ?_) turn
      refine .skip (.nextIs _) fun _ => .ite (fun _ => ?_) fun _ => .pure fun hi turn => turn
      refine .ite (fun _ => ?_) fun _ => .fail
      exact .skip .advance fun _ => .bring h.readsValue_yieldOrExpressions fun next _ => .next (by simp) trivial
    · refine .skip (.spanFrom _) fun hi span hle => .pure ⟨readIn (turn.mono le_rfl hle) rfl rfl rfl, rfl⟩
  · refine .ite (fun _ => ?_) fun _ => .fail
    exact .skip .advance fun _ => .bring h.readsValue_yieldOrExpressions fun value _ => after_compound
  · exact .skip (.spanFrom _) fun span => .pure fun hi turn => ⟨readIn turn rfl rfl rfl, rfl⟩

theorem readsStatement_deleteStatement : ReadsStatement (deleteStatement r) := by
  have item : Reads (fun _ => True) (do
      let x ← r.primary
      if isDeletable x then return x else fail) :=
    .of_after fun lo => .bring h.primary fun x _ => .ite (fun _ => .pure fun hi turn => ⟨turn, trivial⟩) fun _ => .fail
  refine .of_after fun lo => .skip .advance fun _ => .bring (readsAll_commaList item) fun items _ => ?_
  refine .skip .peekKind fun kind => ?_
  split
  · exact after_compound
  · exact after_compound
  · exact .fail

omit h in
theorem moves_dottedName : Moves dottedName :=
  .bind .name fun _ => .loop (fun _ => .bind (.accept _) fun _ => .ite (.bind .name fun _ => .pure) .pure) _

omit h in
theorem moves_alias : Moves alias? :=
  .bind (.accept _) fun _ => .ite (.bind .name fun _ => .pure) .pure

omit h in
theorem moves_strictList {item : Parser Unit} (hi : Moves item) : Moves (strictList item) :=
  .bind hi fun _ => .loop (fun _ => .bind (.accept _) fun _ => .ite (.bind hi fun _ => .pure) .pure) _

omit h in
theorem readsStatement_importStatement : ReadsStatement importStatement :=
  .of_after fun _ => .skip .advance fun _ =>
    .skip (moves_strictList (.bind moves_dottedName fun _ => moves_alias)) fun _ => after_compound

omit h in
theorem readsStatement_fromStatement : ReadsStatement fromStatement := by
  have item : Moves (do
      let _ ← name
      alias?) := .bind .name fun _ => moves_alias
  refine .of_after fun lo => .skip .advance fun _ => ?_
  refine .skip (.loop (fun n => .bind .peekKind fun kind => ?_) _) fun dots => ?_
  · split
    · exact .bind .advance fun _ => .pure
    · exact .bind .advance fun _ => .pure
    · exact .pure
  · refine .skip .peekKind fun kind => ?_
    refine .optional moves_dottedName fun _ => .skip (.expect _) fun _ => ?_
    refine .skip (.accept _) fun _ => .ite (fun _ => after_compound) fun _ => ?_
    refine .skip (.accept _) fun _ => .ite (fun _ => ?_) fun _ => .skip (moves_strictList item) fun _ => after_compound
    exact .skip (.commaList item) fun _ => .skip (.expect _) fun _ => after_compound

theorem readsStatement_simpleStatement : ReadsStatement (simpleStatement r) := by
  refine .of_after fun lo => .skip .here fun start => .skip .peekKind fun kind => ?_
  have rule {p : Parser Node} (hp : ReadsStatement p) :
      After lo [] p fun hi n => LieInTurn lo hi [n] ∧ n.isStatement = true :=
    .last hp fun hi x hx turn => ⟨turn, hx⟩
  have names : After lo [] (do
      advance
      strictList do
        let _ ← name
      return .compound []) fun hi n => LieInTurn lo hi [n] ∧ n.isStatement = true :=
    .skip .advance fun _ => .skip (moves_strictList (.bind .name fun _ => .pure)) fun _ => after_compound
  split
  · refine .skip .advance fun _ => .skip .peekKind fun _ => .ite (fun _ => ?_) fun _ => after_compound
    exact .bring h.readsValue_starExpressions fun x _ => after_compound
  · exact rule readsStatement_importStatement
  · exact rule readsStatement_fromStatement
  · refine .skip .advance fun _ => .skip .peekKind fun _ => .ite (fun _ => ?_) fun _ => after_compound
    refine .bring h.expression fun x _ => .skip (.accept _) fun _ => .ite (fun _ => ?_) fun _ => after_compound
    exact .bring h.expression fun y _ => after_compound
  · exact .skip .advance fun _ => after_compound
  · exact .skip .advance fun _ => after_compound
  · exact .skip .advance fun _ => after_compound
  · exact rule h.readsStatement_deleteStatement
  · refine .skip .advance fun _ => .bring h.expression fun x _ => ?_
    refine .skip (.accept _) fun _ => .ite (fun _ => ?_) fun _ => after_compound
    exact .bring h.expression fun y _ => after_compound
  · exact names
  · exact names
  · exact rule (h.readsStatement_expressionStatement start)

theorem readsBlock_simpleStatements : ReadsBlock (simpleStatements r) := by
  refine .of_after fun lo => .bring h.readsStatement_simpleStatement fun first hfirst => ?_
  refine .loop (fun acc => acc.reverse) (I := fun acc => acc ≠ [] ∧ ∀ n ∈ acc, n.isStatement = true) rfl
    (by simpa using hfirst) fun acc ⟨nonempty, statements⟩ => ?_
  have done : After lo acc.reverse (pure (.inr acc.reverse) : Parser (List Node ⊕ List Node)) fun hi => Sum.elim
      (fun z => LieInTurn lo hi z.reverse ∧ z ≠ [] ∧ ∀ n ∈ z, n.isStatement = true)
      (fun ns => LieInTurn lo hi ns ∧ ns ≠ [] ∧ ∀ n ∈ ns, n.isStatement = true) :=
    .pure fun hi turn => ⟨turn, by simpa using nonempty, by simpa using statements⟩
  refine .skip (.accept _) fun _ => .ite (fun _ => ?_) fun _ => .skip (.expect _) fun _ => done
  refine .skip (.accept _) fun _ => .ite (fun _ => done) fun _ => .bring h.readsStatement_simpleStatement fun x hx => ?_
  exact .next (by simp) ⟨by simp, List.forall_mem_cons.2 ⟨hx, statements⟩⟩

/-! ## Compound statements -/

/-- A keyword with a block behind it, which may be missing. -/
theorem readsAll_keywordBlock (k : Keyword) : ReadsAll (fun n => n.isStatement = true) (do
    if ← acceptKeyword k then
      expectPunct .colon
      r.block
    else return []) := by
  refine .of_after fun lo => .skip (.accept _) fun _ => .ite (fun _ => ?_) fun _ => ?_
  · exact .skip (.expect _) fun _ => .last h.block fun hi ns hns turn => ⟨turn, hns.2⟩
  · exact .pure fun hi turn => ⟨turn, by simp⟩

theorem readsAll_elseBlock : ReadsAll (fun n => n.isStatement = true) (elseBlock? r) := h.readsAll_keywordBlock .else

theorem readsAll_finallyBlock : ReadsAll (fun n => n.isStatement = true) (finallyBlock? r) :=
  h.readsAll_keywordBlock .finally

theorem brings_branch : Brings (fun b => b.1 :: b.2) (fun _ => True) (branch r) := by
  refine .of_after fun lo => .skip .advance fun _ => ?_
  refine .bring h.readsValue_namedExpression fun test _ => ?_
  exact .skip (.expect _) fun _ => .bring h.block fun body _ => .pure fun hi turn => ⟨turn, trivial⟩

omit h in
/-- Later branches are nested in the ones before. -/
theorem lies_branches {lo hi : Position} {bs : List (Node × List Node)} {rest : List Node}
    (turn : LieInTurn lo hi (bs.reverse.flatMap (fun b => b.1 :: b.2) ++ rest)) :
    LieInTurn lo hi (bs.foldl (fun rest b => [.compound (b.1 :: b.2 ++ rest)]) rest) := by
  induction bs generalizing rest with
  | nil => exact turn
  | cons b bs ih =>
    rw [List.reverse_cons, List.flatMap_append, List.append_assoc] at turn
    obtain ⟨mid, before, last⟩ := turn.of_append
    refine ih (before.append (readIn last rfl rfl ?_))
    simp [Node.outerParts, Node.children]

omit h in
theorem isStatement_branches (bs : List (Node × List Node)) {rest : List Node}
    (hrest : ∀ n ∈ rest, n.isStatement = true) :
    ∀ n ∈ bs.foldl (fun rest b => [.compound (b.1 :: b.2 ++ rest)]) rest, n.isStatement = true := by
  induction bs generalizing rest with
  | nil => exact hrest
  | cons b bs ih => exact ih (by simp [Node.isStatement])

theorem readsStatement_ifStatement : ReadsStatement (ifStatement r) := by
  refine .of_after fun lo => .bring h.brings_branch fun first _ mid turn => ?_
  refine Yields.bind (P := fun hi bs => LieInTurn lo hi (bs.reverse.flatMap fun b => b.1 :: b.2)) ?_
    fun mid bs _ turn => ?_
  · refine After.loop (fun acc => acc.reverse.flatMap fun b => b.1 :: b.2) (I := fun _ => True) (by simp) trivial
      (fun acc _ => ?_) turn
    refine .skip (.nextIs _) fun _ => .ite (fun _ => ?_) fun _ => .pure fun hi turn => turn
    exact .bring h.brings_branch fun b _ => .next (by simp) trivial
  · refine (h.readsAll_elseBlock mid).bind fun hi rest _ hrest => ?_
    have turn := lies_branches (turn.append hrest.1)
    have statements := isStatement_branches bs hrest.2
    split
    · next x xs hx =>
      rw [hx] at turn statements
      obtain ⟨next, lies, more⟩ := turn
      exact .pure ⟨.singleton (lies.mono le_rfl more.le), statements x (by simp)⟩
    · exact .fail

theorem readsStatement_whileStatement : ReadsStatement (whileStatement r) := by
  refine .of_after fun lo => .bring h.brings_branch fun b _ => .bring h.readsAll_elseBlock fun rest _ => ?_
  exact after_compound

theorem readsStatement_forStatement : ReadsStatement (forStatement r) := by
  refine .of_after fun lo => .skip (.expect _) fun _ => ?_
  refine .bring h.readsValue_starTargets fun target _ => .skip (.expect _) fun _ => ?_
  refine .bring h.readsValue_starExpressions fun source _ => .skip (.expect _) fun _ => ?_
  exact .bring h.block fun body _ => .bring h.readsAll_elseBlock fun rest _ => after_compound

theorem reads_withItem : Reads (fun _ => True) (withItem r) := by
  have pair {lo : Position} {parts : List Node} :
      After lo parts (pure (.compound parts)) fun hi n => LieInTurn lo hi [n] ∧ True :=
    .pure fun hi turn => ⟨readIn turn rfl rfl rfl, trivial⟩
  refine .of_after fun lo => .bring h.expression fun x _ => .skip (.accept _) fun _ => .ite (fun _ => ?_) fun _ => ?_
  · refine .bring h.readsValue_starTarget fun target _ => .skip .peekKind fun kind => ?_
    split
    · exact pair
    · exact pair
    · exact pair
    · exact .fail
  · exact .leaf .absent rfl rfl rfl pair

theorem yields_withItems (lo : Position) : Yields lo (withItems r) fun hi ns => LieInTurn lo hi ns := by
  refine .orElse (.of_after ?_) (.of_after ?_)
  · refine .skip (.expect _) fun _ => .bring (readsAll_commaList h.reads_withItem) fun items _ => ?_
    refine .skip (.expect _) fun _ => .skip (.nextIs _) fun _ => .ite (fun _ => ?_) fun _ => .fail
    exact .pure fun hi turn => turn
  · refine .bring h.reads_withItem fun first _ => ?_
    refine .loop (fun acc => acc.reverse) (I := fun _ => True) rfl trivial fun acc _ => .skip (.accept _) fun _ => ?_
    refine .ite (fun _ => .bring h.reads_withItem fun x _ => ?_) fun _ => .pure fun hi turn => turn
    exact .next (by simp) trivial

theorem readsStatement_withStatement : ReadsStatement (withStatement r) := by
  refine .of_after fun lo => .skip (.expect _) fun _ => ?_
  refine .gather (fun lo _ turn => (h.yields_withItems _).imp fun hi ns _ lie => lie.mono turn le_rfl) fun items => ?_
  exact .skip (.expect _) fun _ => .bring h.block fun body _ => after_compound

theorem readsStatement_handler (group : Bool) : ReadsStatement (handler r group) := by
  refine .of_after fun lo => .skip .advance fun _ => ?_
  refine .optional (.expect _) fun _ => .skip (.nextIs _) fun _ => .ite (fun _ => ?_) fun _ => ?_
  · exact .skip .advance fun _ => .bring h.block fun body _ => after_compound
  · refine .bring h.expression fun kind _ => .skip moves_alias fun _ => .skip (.expect _) fun _ => ?_
    exact .bring h.block fun body _ => after_compound

theorem readsStatement_tryStatement : ReadsStatement (tryStatement r) := by
  refine .of_after fun lo => .skip (.expect _) fun _ => .skip (.expect _) fun _ => ?_
  refine .bring h.block fun body _ => .skip (.nextIs _) fun _ => .ite (fun _ => ?_) fun _ => ?_
  · refine .skip .peekSecond fun second => .gather (fun lo => ?_) fun handlers => ?_
    · refine .loop (fun acc => acc.reverse) (I := fun _ => True) rfl trivial fun acc _ => .skip (.nextIs _) fun _ => ?_
      refine .ite (fun _ => .bring (h.readsStatement_handler _) fun x _ => ?_) fun _ => .pure fun hi turn => turn
      exact .next (by simp) trivial
    · exact .bring h.readsAll_elseBlock fun rest _ => .bring h.readsAll_finallyBlock fun final _ => after_compound
  · refine .skip (.nextIs _) fun _ => .ite (fun _ => ?_) fun _ => .fail
    exact .bring h.readsAll_finallyBlock fun final _ => after_compound

/-! ## Definitions -/

section Definitions

variable {lo : Position} {decorators : List Node}

omit h in
/-- The head of a function that is not async: the decorators and the return type are visited after the body. -/
theorem lies_function {mid hi : Position} {params returns : Node} {body : List Node}
    (values : ∀ d ∈ decorators, d.isValue = true) (hreturns : returns.isValue = true) (nonempty : body ≠ [])
    (statements : ∀ n ∈ body, n.isStatement = true) (head : LieInTurn lo mid (decorators ++ [params, returns]))
    (turn : LieInTurn mid hi body) : Lies lo hi (.compound (params :: body ++ decorators ++ [returns])) := by
  obtain ⟨cur, before, next, hparams, returnsLie⟩ := head.of_append
  have args : ArgumentsLie lo mid [params] [] :=
    ⟨.singleton (hparams.mono before.le returnsLie.le), head.le, by simp⟩
  have heading : LieInTurn lo mid (decorators ++ [returns]) := before.append (returnsLie.mono hparams.le le_rfl)
  have lies := Lies.definition args heading turn nonempty statements fun d hd => ?_
  · simpa using lies
  · rcases List.mem_append.1 hd with hd | hd
    · exact Node.isStatement_of_isValue (values d hd)
    · exact List.mem_singleton.1 hd ▸ Node.isStatement_of_isValue hreturns

theorem after_functionBody (values : ∀ d ∈ decorators, d.isValue = true) (async : Option Mark) (id : String)
    {params returns : Node} (hreturns : returns.isValue = true) :
    After lo (decorators ++ [params] ++ [returns]) (functionBody r decorators async id params returns)
      fun hi n => LieInTurn lo hi [n] ∧ n.isStatement = true := by
  refine .skip (.expect _) fun _ => .bring h.block fun body hbody => ?_
  split
  · refine .skip (.spanFrom _) fun span => .pure fun hi turn => ⟨?_, rfl⟩
    obtain ⟨mid, head, turn⟩ := turn.of_append
    exact .singleton (.asyncDef (by simpa using head) turn)
  · refine .pure fun hi turn => ⟨?_, rfl⟩
    obtain ⟨mid, head, turn⟩ := turn.of_append
    exact .singleton (lies_function values hreturns hbody.1 hbody.2 (by simpa using head) turn)

theorem after_functionStatement (values : ∀ d ∈ decorators, d.isValue = true) (async : Option Mark) :
    After lo decorators (functionStatement r decorators async) fun hi n =>
      LieInTurn lo hi [n] ∧ n.isStatement = true := by
  have params : Reads (fun _ => True) (parameters r ⟨true, .rparen⟩) := fun lo =>
    (h.yields_parameters lo).imp fun _ _ _ lies => ⟨.singleton lies, trivial⟩
  refine .skip (.expect _) fun _ => .skip .name fun id => .skip (.expect _) fun _ => ?_
  refine .bring params fun params _ => .skip (.expect _) fun _ => ?_
  refine .skip (.accept _) fun _ => .ite (fun _ => ?_) fun _ => ?_
  · exact .bring h.expression fun returns hreturns => h.after_functionBody values async id hreturns
  · exact .bring readsValue_absent fun returns hreturns => h.after_functionBody values async id hreturns

theorem after_classStatement (values : ∀ d ∈ decorators, d.isValue = true) :
    After lo decorators (classStatement r decorators) fun hi n => LieInTurn lo hi [n] ∧ n.isStatement = true := by
  refine .skip (.expect _) fun _ => .skip .name fun _ => .skip (.accept _) fun _ => ?_
  have rest {mid : Position} (args : List Node × List Node) (heading : LieInTurn lo mid decorators)
      (hargs : ArgumentsLie lo mid args.1 args.2) : Yields mid (do
        expectPunct .colon
        let body ← r.block
        return .compound (args.1 ++ args.2 ++ body ++ decorators)) fun hi n =>
          LieInTurn lo hi [n] ∧ n.isStatement = true := by
    refine .skip (.expect _) fun mid _ hmid => (h.block mid).bind fun hi body _ hbody => .pure ⟨?_, rfl⟩
    refine .singleton (.definition (hargs.mono le_rfl hmid) (heading.mono le_rfl hmid) hbody.1 hbody.2.1 hbody.2.2 ?_)
    exact fun d hd => Node.isStatement_of_isValue (values d hd)
  refine .ite (fun _ mid turn => ?_) fun _ mid turn => ?_
  · refine (h.yields_arguments mid).bind fun next args _ hargs => .skip (.expect _) fun hi _ hle => ?_
    exact rest args (turn.mono le_rfl (hargs.positional.le.trans hle)) (hargs.mono turn.le hle)
  · exact rest ([], []) turn ⟨turn.le, turn.le, by simp⟩

theorem after_asyncStatement (values : ∀ d ∈ decorators, d.isValue = true) :
    After lo decorators (asyncStatement r decorators) fun hi n => LieInTurn lo hi [n] ∧ n.isStatement = true := by
  have undecorated {p : Parser Node} (hp : ReadsStatement p) :
      After lo decorators (if decorators.isEmpty then p else fail) fun hi n =>
        LieInTurn lo hi [n] ∧ n.isStatement = true := by
    refine .ite (fun hempty => ?_) fun _ => .fail
    rw [List.isEmpty_iff.1 hempty]
    exact .last hp fun hi x hx turn => ⟨turn, hx⟩
  refine .skip .here fun start => .skip .advance fun _ => .skip .peekKind fun kind => ?_
  split
  · exact h.after_functionStatement values (some start)
  · exact undecorated h.readsStatement_forStatement
  · exact undecorated h.readsStatement_withStatement
  · exact .fail

theorem readsStatement_decorated : ReadsStatement (decorated r) := by
  refine .of_after fun lo mid turn => ?_
  refine Yields.bind (P := fun hi ns => LieInTurn lo hi ns ∧ ∀ d ∈ ns, d.isValue = true) ?_ fun mid ds _ hds => ?_
  · refine After.loop (fun acc => acc.reverse) (I := fun acc => ∀ d ∈ acc, d.isValue = true) rfl (by simp)
      (fun acc hacc => ?_) turn
    refine .skip (.accept _) fun _ => .ite (fun _ => ?_) fun _ => .pure fun hi turn => ⟨turn, by simpa using hacc⟩
    refine .bring h.readsValue_namedExpression fun x hx => .skip (.expect _) fun _ => ?_
    exact .next (by simp) (List.forall_mem_cons.2 ⟨hx, hacc⟩)
  · refine .skip .peekKind fun hi kind hle => ?_
    have turn := hds.1.mono le_rfl hle
    split
    · exact h.after_functionStatement hds.2 .none turn
    · exact h.after_classStatement hds.2 turn
    · exact h.after_asyncStatement hds.2 turn
    · exact .fail

end Definitions

/-! ## Match statements -/

theorem reads_subject : Reads (fun _ => True) (subject r) := by
  refine .of_after fun lo => .bring (readsAll_commaList h.readsValue_starNamedExpression) fun items _ => ?_
  split
  · exact .ite (fun _ => .fail) fun _ => .pure fun hi turn => ⟨turn, trivial⟩
  · exact .pure fun hi turn => ⟨readIn turn rfl rfl rfl, trivial⟩

theorem readsStatement_caseBlock : ReadsStatement (caseBlock r) := by
  refine .of_after fun lo => .skip (.nextIsWord _) fun _ => .ite (fun _ => ?_) fun _ => .fail
  refine .skip .advance fun _ => .bring h.reads_openSequence fun pattern _ => ?_
  refine .skip (.accept _) fun _ => .ite (fun _ => ?_) fun _ => ?_
  · refine .bring h.readsValue_namedExpression fun guard _ => .skip (.expect _) fun _ => ?_
    exact .bring h.block fun body _ => after_compound
  · refine .bring readsValue_absent fun guard _ => .skip (.expect _) fun _ => ?_
    exact .bring h.block fun body _ => after_compound

theorem readsStatement_matchStatement : ReadsStatement (matchStatement r) := by
  refine .of_after fun lo => .skip .advance fun _ => .bring h.reads_subject fun x _ => ?_
  refine .skip (.expect _) fun _ => .skip (.expect _) fun _ => .skip (.expect _) fun _ => ?_
  refine .bring h.readsStatement_caseBlock fun first _ => ?_
  refine .loop (fun acc => x :: acc.reverse) (I := fun _ => True) rfl trivial fun acc _ => .skip (.accept _) fun _ => ?_
  refine .ite (fun _ => ?_) fun _ => .bring h.readsStatement_caseBlock fun b _ => .next (by simp) trivial
  exact .pure fun hi turn => ⟨readIn turn rfl rfl rfl, rfl⟩

/-! ## Blocks -/

omit h in
theorem readsBlock_single {p : Parser Node} (hp : ReadsStatement p) : ReadsBlock (do return [← p]) :=
  .of_after fun _ => .bring hp fun _ hx => .pure fun _ turn => ⟨turn, by simp, by simpa using hx⟩

theorem readsBlock_statement : ReadsBlock (statement r) := by
  have rule {lo : Position} {p : Parser (List Node)} (hp : ReadsBlock p) : After lo [] p fun hi ns =>
      LieInTurn lo hi ns ∧ ns ≠ [] ∧ ∀ n ∈ ns, n.isStatement = true :=
    .last hp fun hi ns hns turn => ⟨turn, hns⟩
  refine .of_after fun lo => .skip .peekKind fun kind => ?_
  split
  · exact rule (readsBlock_single h.readsStatement_ifStatement)
  · exact rule (readsBlock_single h.readsStatement_whileStatement)
  · exact rule (readsBlock_single h.readsStatement_forStatement)
  · exact rule (readsBlock_single h.readsStatement_withStatement)
  · exact rule (readsBlock_single h.readsStatement_tryStatement)
  · exact rule (readsBlock_single (.of_after fun lo => h.after_functionStatement (by simp) _))
  · exact rule (readsBlock_single (.of_after fun lo => h.after_classStatement (by simp)))
  · exact rule (readsBlock_single (.of_after fun lo => h.after_asyncStatement (by simp)))
  · exact rule (readsBlock_single h.readsStatement_decorated)
  · refine .skip (.nextIsWord _) fun _ => .ite (fun _ => ?_) fun _ => rule h.readsBlock_simpleStatements
    exact rule fun lo =>
      .orElse (readsBlock_single h.readsStatement_matchStatement lo) (h.readsBlock_simpleStatements lo)
  · exact rule h.readsBlock_simpleStatements

/-- One step of the loop over statements. -/
theorem after_statementGroup {lo : Position} {some : Prop} (close : TokenKind) {acc : List (List Node)}
    (groups : AreGroups some acc) :
    After lo acc.reverse.flatten (do
      if ← accept close then return .inr acc.reverse
      else return .inl ((← statement r) :: acc)) fun hi => Sum.elim
        (fun (z : List (List Node)) => LieInTurn lo hi z.reverse.flatten ∧ AreGroups some z)
        (fun gs => LieInTurn lo hi gs.flatten ∧ AreGroups some gs) := by
  refine .skip (.accept _) fun _ => .ite (fun _ => .pure fun hi turn => ⟨turn, groups.reverse⟩) fun _ => ?_
  exact .bring h.readsBlock_statement fun g hg => .next (by simp) (groups.cons hg)

theorem readsAll_statementsUntil (close : TokenKind) :
    ReadsAll (fun n => n.isStatement = true) (statementsUntil close r) := by
  refine .of_after fun lo mid turn => ?_
  refine Yields.bind (P := fun hi gs => LieInTurn lo hi gs.flatten ∧ AreGroups False gs) ?_ fun hi gs _ hgs => ?_
  · refine After.loop (fun acc => acc.reverse.flatten) (I := AreGroups False) rfl .nil (fun acc hacc => ?_) turn
    exact h.after_statementGroup close hacc
  · exact .pure ⟨hgs.1, hgs.2.statements⟩

/-- If the first token does not close the block, the block is not empty. -/
theorem statementsUntil_of_head {close : TokenKind} {top lo : Position} {s s' : Stream} {ns : List Node}
    (heq : statementsUntil close r s = some (ns, s')) (ahead : Ahead top lo s.tokens)
    (head : ∀ t ∈ s.tokens.head?, t.kind ≠ close) :
    ∃ hi, lo ≤ hi ∧ Ahead top hi s'.tokens ∧ LieInTurn lo hi ns ∧ ns ≠ [] ∧ ∀ n ∈ ns, n.isStatement = true := by
  obtain ⟨gs, s₁, hloop, hpure⟩ := bind_eq_some heq
  cases hpure
  obtain ⟨fuel, step, s₂, hstep, hrest⟩ := loop_eq_some hloop
  obtain ⟨closed, s₃, haccept, hstep⟩ := bind_eq_some hstep
  obtain ⟨t, rest, htokens, ⟨-, hkind, -⟩ | ⟨rfl, -, hsame⟩⟩ := accept_eq_some haccept
  · exact absurd hkind (head t (by rw [htokens]; rfl))
  · obtain ⟨g, s₄, hstatement, hpure⟩ := bind_eq_some hstep
    cases hpure
    obtain ⟨mid, hmid, ahead, turn, hg⟩ := h.readsBlock_statement lo hstatement (hsame ▸ ahead)
    have later : Yields mid _ fun hi gs => LieInTurn lo hi gs.flatten ∧ AreGroups True gs :=
      .iterate fuel (I := fun hi acc => LieInTurn lo hi acc.reverse.flatten ∧ AreGroups True acc)
        ⟨by simpa using turn, .cons .nil hg⟩ fun _ acc _ hacc => h.after_statementGroup close hacc.2 hacc.1
    obtain ⟨hi, hle, ahead, turn, groups⟩ := later hrest ahead
    exact ⟨hi, hmid.trans hle, ahead, turn, groups.ne_nil trivial, groups.statements⟩

theorem readsBlock_blockRule : ReadsBlock (blockRule r) := by
  refine .of_after fun lo => .skip (.accept _) fun _ => .ite (fun _ => ?_) fun _ => ?_
  · intro mid turn top s ns s' heq ahead
    obtain ⟨u, s₁, hindent, hrest⟩ := bind_eq_some heq
    obtain ⟨t, rest, htokens, hkind, hnext⟩ := expect_eq_some hindent
    rw [htokens] at ahead
    -- an indentation has code behind it, so its block is not empty
    cases ahead with
    | text text => simp [hkind, hasText] at text
    | indent _ code later =>
      rw [← hnext] at code later
      have hclose : ∀ t ∈ s₁.tokens.head?, t.kind ≠ .dedent := by
        intro t ht hdedent
        simpa [hdedent, hasText] using code t ht
      obtain ⟨hi, hle, ahead, lie, hns⟩ := h.statementsUntil_of_head hrest later hclose
      exact ⟨hi, hle, ahead, lie.mono turn le_rfl, hns⟩
    | other kind => simp [hkind] at kind
  · exact .last h.readsBlock_simpleStatements fun hi ns hns turn => ⟨turn, hns⟩

end Rules.Sound

/-- The rules for every depth read trees that lie in turn. -/
theorem rules_sound (depth : Nat) : (rules depth).Sound := by
  induction depth with
  | zero =>
    constructor <;> exact .of_after fun _ => .fail
  | succ depth ih =>
    exact {
      expression := ih.readsValue_expressionRule
      disjunction := ih.readsValue_disjunctionRule
      inversion := ih.readsValue_inversionRule
      bitOr := ih.readsValue_bitOrRule
      factor := ih.readsValue_factorRule
      primary := ih.readsValue_primaryRule
      pattern := ih.reads_patternRule
      block := ih.readsBlock_blockRule }

theorem exists_completeLines (text : List Char) : ∃ complete, completeLines text = complete ++ ['\n'] := by
  unfold completeLines
  dsimp only
  split
  · next hlast =>
    obtain ⟨complete, hcomplete⟩ := List.getLast?_eq_some_iff.1 hlast
    exact ⟨complete, hcomplete⟩
  · exact ⟨_, rfl⟩

/-- The tree of a text is straight: its parts are in order except those that its nodes swap. -/
theorem straight_of_parseText {text : List Char} {tree : Node} (h : parseText text = .ok tree) : tree.Straight := by
  unfold parseText at h
  split at h
  · cases h
  dsimp only at h
  split at h
  · next body rest heq =>
    cases h
    obtain ⟨complete, hcomplete⟩ := exists_completeLines text
    have ahead := lexAt_ahead ⟨1, 0, 0⟩ complete
    rw [← hcomplete] at ahead
    obtain ⟨hi, -, -, turn, -⟩ := (rules_sound _).readsAll_statementsUntil .endmarker _ heq ahead
    have lies : Lies _ hi (.compound body) := .of_parts rfl rfl turn
    exact lies.straight.number 0
  · cases h

end AwaitLint.Grammar
