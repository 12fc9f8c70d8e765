import AwaitLint.Proofs.ParserOrder

/-! # Formatted strings in the order of the text

The expressions of a formatted string are parsed as texts of their own, each with the place of the brace before it. The
cursor that goes through the string is behind an expression when the next one is looked for.
-/

namespace AwaitLint.Grammar

open AwaitLint.Node (Lies LieInTurn)

namespace Cursor

/-- The cursor has moved on by some characters. -/
def Reaches (c c' : Cursor) : Prop := ∃ n, c' = c.skip n

namespace Reaches

variable {c c' c'' : Cursor}

theorem refl (c : Cursor) : Reaches c c := ⟨0, rfl⟩

theorem skip (c : Cursor) (n : Nat) : Reaches c (c.skip n) := ⟨n, rfl⟩

theorem skipWhile (c : Cursor) (p : Char → Bool) : Reaches c (c.skipWhile p) := ⟨_, skipWhile_eq p c⟩

theorem trans (h : Reaches c c') (h' : Reaches c' c'') : Reaches c c'' := by
  obtain ⟨m, rfl⟩ := h
  obtain ⟨n, rfl⟩ := h'
  exact ⟨m + n, skip_skip m n c⟩

theorem position_le (h : Reaches c c') : c.mark.position ≤ c'.mark.position := by
  obtain ⟨n, rfl⟩ := h
  exact c.position_le_skip n

theorem position_le_end (h : Reaches c c') : c'.mark.position ≤ (c.mark.advance c.rest).position := by
  obtain ⟨n, rfl⟩ := h
  rw [skip_eq]
  calc (c.mark.advance (c.rest.take n)).position
      ≤ ((c.mark.advance (c.rest.take n)).advance (c.rest.drop n)).position := Mark.position_le_advance _ _
    _ = (c.mark.advance c.rest).position := by rw [← Mark.advance_append, List.take_append_drop]

end Reaches

end Cursor

/-- No character takes less room than a parenthesis. -/
theorem Mark.position_step_paren_le (m : Mark) (c : Char) : (m.step ')').position ≤ (m.step c).position := by
  have hbytes : 1 ≤ Text.byteLength c := by
    unfold Text.byteLength
    dsimp only
    split_ifs <;> omega
  have hparen : m.step ')' = ⟨m.line, m.byte + 1, m.char + 1⟩ := rfl
  rw [hparen, position, position, Prod.Lex.toLex_le_toLex, step]
  split
  · exact .inl (by dsimp only; omega)
  · exact .inr ⟨rfl, by dsimp only; omega⟩

namespace Literal

variable {ε : Type}

/-- What is parsed as an expression in parentheses lies there. -/
def ParsesInPlace (parse : Mark → List Char → Except ε Node) : Prop :=
  ∀ m text n, parse m text = .ok n → Lies m.position (m.advance ('(' :: text ++ [')'])).position n

theorem takeExpression_ok {c after : Cursor} {text cs : List Char} (here : c.rest = '\x7b' :: cs)
    (h : takeExpression c = .ok (text, after)) :
    c.Reaches after ∧ (c.mark.advance ('(' :: text ++ [')'])).position ≤ (after.skip 1).mark.position := by
  unfold takeExpression at h
  dsimp only at h
  split at h
  · cases h
  · next n hn =>
    split at h
    · cases h
    · next e es hafter =>
      split at h
      · cases h
      · cases h
        refine ⟨(Cursor.Reaches.skip c 1).trans (.skip _ n), ?_⟩
        have hopen : c.mark.step '(' = (c.skip 1).mark := by
          rw [Cursor.skip_eq, here]
          rfl
        have hinner : (c.mark.step '(').advance ((c.skip 1).rest.take n) = ((c.skip 1).skip n).mark := by
          rw [hopen, Cursor.skip_eq n]
        have hclose : (((c.skip 1).skip n).skip 1).mark = ((c.skip 1).skip n).mark.step e := by
          rw [Cursor.skip_eq 1 ((c.skip 1).skip n), hafter]
          rfl
        rw [hclose, Mark.advance_append]
        change (((c.mark.step '(').advance _).step ')').position ≤ _
        rw [hinner]
        exact Mark.position_step_paren_le _ e

theorem afterEquals_ok {c c' : Cursor} (h : afterEquals c = .ok c') : c' = c ∨ (c.skip 1).Reaches c' := by
  unfold afterEquals at h
  split at h
  · dsimp only at h
    split at h
    · cases h
    · cases h
      exact .inr (.skipWhile _ _)
  · cases h
    exact .inl rfl

theorem afterConversion_ok {c c' : Cursor} (h : afterConversion c = .ok c') : c' = c ∨ (c.skip 1).Reaches c' := by
  unfold afterConversion at h
  split at h
  · split at h
    · cases h
      exact .inr ⟨1, by rw [Cursor.skip_skip]⟩
    · cases h
  · cases h
  · cases h
    exact .inl rfl

/-- The sign that ends an expression has been passed, or it is the next character still. -/
theorem signs_ok {c c₁ c₂ : Cursor} (hequals : afterEquals c = .ok c₁) (hconversion : afterConversion c₁ = .ok c₂) :
    c.Reaches c₂ ∧ (c.skip 1).mark.position ≤ (c₂.skip 1).mark.position := by
  have passed : c₂ = c ∨ (c.skip 1).Reaches c₂ := by
    rcases afterEquals_ok hequals with rfl | reach₁
    · exact afterConversion_ok hconversion
    · rcases afterConversion_ok hconversion with rfl | reach₂
      · exact .inr reach₁
      · exact .inr (reach₁.trans ((Cursor.Reaches.skip _ 1).trans reach₂))
  rcases passed with rfl | reach
  · exact ⟨.refl _, le_rfl⟩
  · exact ⟨(Cursor.Reaches.skip _ 1).trans reach, (reach.trans (.skip _ 1)).position_le⟩

theorem exceptBind_eq_ok {ε α β : Type} {x : Except ε α} {f : α → Except ε β} {b : β} (h : x >>= f = .ok b) :
    ∃ a, x = .ok a ∧ f a = .ok b := by
  cases x with
  | error e => cases h
  | ok a => exact ⟨a, rfl, h⟩

/-- What a step over a formatted string does once it has passed some text: it goes on, it ends with the nodes found, or
it takes an expression with the signs and the format behind it. -/
theorem formattedFrom_cases {parse : Mark → List Char → Except ε Node} {raw : Bool} {fuel level : Nat}
    {acc nodes : List Node} {c c' : Cursor} (h : formattedFrom parse raw (fuel + 1) level acc c = .ok (nodes, c')) :
    ∃ n, formattedFrom parse raw fuel level acc (c.skip n) = .ok (nodes, c') ∨
      nodes = acc.reverse ∧ c' = c.skip n ∨
      ∃ cs text value spec after after₁ after₂ after₃, (c.skip n).rest = '\x7b' :: cs ∧
        takeExpression (c.skip n) = .ok (text, after) ∧ parse (c.skip n).mark text = .ok value ∧
        afterEquals after = .ok after₁ ∧ afterConversion after₁ = .ok after₂ ∧
        (spec = .absent ∧ after₃ = after₂ ∨ ∃ specs, spec = .operation specs ∧
          formattedFrom parse raw fuel (level + 1) [] (after₂.skip 1) = .ok (specs, after₃)) ∧
        formattedFrom parse raw fuel level (.operation [value, spec] :: acc) (after₃.skip 1) = .ok (nodes, c') := by
  unfold formattedFrom at h
  split at h
  · cases h
  next p hp =>
  dsimp only at h
  split at h
  · cases h
  refine ⟨p.skip, ?_⟩
  generalize c.skip p.skip = c₁ at h ⊢
  split at h
  · exact .inl h
  split at h
  · next cs here =>
    split at h
    · obtain ⟨u, hu, -⟩ := exceptBind_eq_ok h
      cases hu
    obtain ⟨⟨text, after⟩, htake, h⟩ := exceptBind_eq_ok h
    rw [orHere_eq_ok] at htake
    split at h
    · next value hvalue =>
      obtain ⟨_, hv, h⟩ := exceptBind_eq_ok h
      cases hv
      obtain ⟨after₁, hequals, h⟩ := exceptBind_eq_ok h
      obtain ⟨after₂, hconversion, h⟩ := exceptBind_eq_ok h
      rw [orHere_eq_ok] at hequals hconversion
      split at h
      · obtain ⟨_, herror, -⟩ := exceptBind_eq_ok h
        cases herror
      · obtain ⟨⟨specs, after₃⟩, hspecs, h⟩ := exceptBind_eq_ok h
        obtain ⟨_, hok, h⟩ := exceptBind_eq_ok h
        cases hok
        dsimp only at h
        split at h
        · refine .inr (.inr ⟨cs, text, value, .operation specs, after, after₁, after₂, after₃, here, htake, hvalue, ?_⟩)
          exact ⟨hequals, hconversion, .inr ⟨specs, rfl, hspecs⟩, h⟩
        · cases h
      · obtain ⟨_, hok, h⟩ := exceptBind_eq_ok h
        cases hok
        dsimp only at h
        split at h
        · refine .inr (.inr ⟨cs, text, value, .absent, after, after₁, after₂, after₂, here, htake, hvalue, ?_⟩)
          exact ⟨hequals, hconversion, .inl ⟨rfl, rfl⟩, h⟩
        · cases h
    · obtain ⟨u, hu, -⟩ := exceptBind_eq_ok h
      cases hu
  · cases h
    exact .inr (.inl ⟨rfl, rfl⟩)
  · split at h
    · cases h
      exact .inr (.inl ⟨rfl, rfl⟩)
    · cases h

/-- The expressions of a formatted string lie behind those found before, and the cursor is behind them. -/
theorem formattedFrom_lies {parse : Mark → List Char → Except ε Node} (hparse : ParsesInPlace parse)
    {raw : Bool} {fuel level : Nat} {acc nodes : List Node} {c c' : Cursor} {lo : Position}
    (h : formattedFrom parse raw fuel level acc c = .ok (nodes, c')) (turn : LieInTurn lo c.mark.position acc.reverse) :
    c.Reaches c' ∧ LieInTurn lo c'.mark.position nodes := by
  induction fuel generalizing level acc nodes c c' lo with
  | zero =>
    cases h
    exact ⟨.refl c, turn⟩
  | succ fuel ih =>
    obtain ⟨n, hstep⟩ := formattedFrom_cases h
    have moved := Cursor.Reaches.skip c n
    replace turn := turn.mono le_rfl moved.position_le
    generalize c.skip n = c₁ at hstep moved turn
    obtain hnext | ⟨rfl, rfl⟩ | ⟨cs, text, value, spec, after, after₁, after₂, after₃, here, htake, hvalue, hequals,
      hconversion, hspec, hrest⟩ := hstep
    · obtain ⟨reach, lies⟩ := ih hnext turn
      exact ⟨moved.trans reach, lies⟩
    · exact ⟨moved, turn⟩
    · obtain ⟨reach, hbound⟩ := takeExpression_ok here htake
      have lies := (hparse _ _ _ hvalue).mono le_rfl hbound
      obtain ⟨reach', behind⟩ := signs_ok hequals hconversion
      have reach₂ : c₁.Reaches after₂ := reach.trans reach'
      obtain ⟨reach₃, parts⟩ : c₁.Reaches after₃ ∧
          LieInTurn c₁.mark.position (after₃.skip 1).mark.position [value, spec] := by
        rcases hspec with ⟨rfl, rfl⟩ | ⟨specs, rfl, hspecs⟩
        · exact ⟨reach₂, _, lies, _, .leaf rfl rfl rfl, behind⟩
        · obtain ⟨reach₃, specsLie⟩ := ih hspecs (le_refl _)
          have := after₃.position_le_skip 1
          refine ⟨reach₂.trans ((Cursor.Reaches.skip _ 1).trans reach₃), _, lies.mono le_rfl behind, _, ?_, this⟩
          exact .of_parts rfl rfl specsLie
      obtain ⟨reach', lies'⟩ := ih hrest (by rw [List.reverse_cons]; exact turn.snoc (.of_parts rfl rfl parts))
      exact ⟨moved.trans (reach₃.trans ((Cursor.Reaches.skip _ 1).trans reach')), lies'⟩

/-- The inside of a string lies within its text. -/
theorem split_within (start : Mark) (text : List Char) :
    start.position ≤ (split start text).body.mark.position ∧
      ((split start text).body.mark.advance (split start text).body.rest).position ≤ (start.advance text).position := by
  unfold split
  extract_lets letters quoted size head body
  have hbody : body <+: text.drop (letters.length + size) := by
    rw [← List.drop_drop]
    exact List.take_prefix _ _
  obtain ⟨left, hleft⟩ := hbody
  refine ⟨start.position_le_advance head, ?_⟩
  calc ((start.advance head).advance body).position
      ≤ (((start.advance head).advance body).advance left).position := Mark.position_le_advance _ _
    _ = (start.advance text).position := by
      rw [← Mark.advance_append, ← Mark.advance_append, hleft, List.take_append_drop]

end Literal

open AwaitLint.Grammar.Parser

/-- The strings lie between two positions, in order. -/
def TextsInTurn : Position → Position → List (Mark × List Char) → Prop
  | lo, hi, [] => lo ≤ hi
  | lo, hi, (m, text) :: rest => lo ≤ m.position ∧ TextsInTurn (m.advance text).position hi rest

theorem TextsInTurn.snoc {lo mid hi : Position} {texts : List (Mark × List Char)} (h : TextsInTurn lo mid texts)
    {m : Mark} {text : List Char} (start : mid ≤ m.position) (stop : (m.advance text).position ≤ hi) :
    TextsInTurn lo hi (texts ++ [(m, text)]) := by
  induction texts generalizing lo with
  | nil => exact ⟨h.trans start, stop⟩
  | cons x texts ih => exact ⟨h.1, ih h.2⟩

section Strings

variable {r : Rules} {K : Node → Prop}

theorem parsesInPlace_parseFormatted (h : Reads K (starExpressions r)) : Literal.ParsesInPlace (parseFormatted r) := by
  intro m text n hn
  unfold parseFormatted at hn
  dsimp only at hn
  split at hn
  · next node s heq =>
    cases hn
    have ahead := lexAt_ahead m ('(' :: text ++ [')'])
    rw [show ('(' :: text ++ [')']) ++ ['\n'] = ['('] ++ text ++ [')', '\n'] by simp] at ahead
    obtain ⟨hi, -, ahead, turn, -⟩ := h m.position heq ahead
    exact turn.single.mono le_rfl ahead.le
  · cases hn

/-- Nodes have been read up to the strings that are left. -/
def StringsLeft (lo hi : Position) (parts : List Literal.Parts) (nodes : List Node) : Prop :=
  ∃ texts : List (Mark × List Char), parts = texts.map (fun x => Literal.split x.1 x.2) ∧
    ∃ mid, LieInTurn lo mid nodes ∧ TextsInTurn mid hi texts

theorem StringsLeft.step (h : Reads K (starExpressions r)) {lo mid : Position} {p : Literal.Parts}
    {ps : List Literal.Parts} {acc : List Node} (left : StringsLeft lo mid (p :: ps) acc) :
    Yields mid (if p.formatted then
        match Literal.formattedFrom (parseFormatted r) p.raw (p.body.rest.length + 2) 0 [] p.body with
        | .ok (nodes, _) => pure (acc ++ nodes)
        | .error _ => fail
      else match Literal.plainFault p with
        | some _ => fail
        | none => pure acc) fun hi => StringsLeft lo hi ps := by
  obtain ⟨texts, hparts, cur, lie, turn⟩ := left
  cases texts with
  | nil => cases hparts
  | cons x texts =>
    obtain ⟨rfl, rfl⟩ := List.cons.inj hparts
    obtain ⟨before, within⟩ := Literal.split_within x.1 x.2
    split
    · split
      · next nodes c hok =>
        obtain ⟨reach, inside⟩ := Literal.formattedFrom_lies (parsesInPlace_parseFormatted h) hok (le_refl _)
        have inside := inside.mono (turn.1.trans before) (reach.position_le_end.trans within)
        exact .pure ⟨texts, rfl, _, lie.append inside, turn.2⟩
      · exact .fail
    · split
      · exact .fail
      · refine .pure ⟨texts, rfl, _, lie.mono le_rfl ?_, turn.2⟩
        exact turn.1.trans (x.1.position_le_advance x.2)

/-- The nodes of the strings lie in them. -/
theorem reads_strings (h : Reads K (starExpressions r)) : Reads (fun n => n.isValue = true) (strings r) := by
  intro lo
  unfold strings
  refine Yields.bind (P := fun hi texts => TextsInTurn lo hi texts) ?_ fun mid texts _ turn => ?_
  · refine .loop (I := fun hi (acc : List (Mark × List Char)) => TextsInTurn lo hi acc.reverse) (le_refl lo) ?_
    refine fun mid acc _ turn => .peek fun t => ?_
    split
    · next text hkind =>
      refine .advance (by rw [hkind]; rfl) fun start _ string => .pure ?_
      rw [string text hkind]
      simpa using turn.snoc start le_rfl
    · exact .of_yields (.pure turn)
  · extract_lets parts
    refine Yields.bind (P := fun hi nodes => LieInTurn lo hi nodes) ?_ fun hi nodes _ lie => ?_
    · refine (Yields.foldlM (I := StringsLeft lo) ?_ ?_).imp ?_
      · exact ⟨texts, rfl, lo, le_refl lo, turn⟩
      · intro mid p ps acc _ left
        exact left.step h
      · rintro hi nodes - ⟨texts, hnil, mid, lie, turn⟩
        obtain rfl := List.map_eq_nil_iff.1 hnil.symm
        exact lie.mono le_rfl turn
    · split
      · exact .fail
      split
      · exact .pure ⟨.singleton (.of_parts rfl rfl lie), rfl⟩
      · exact .pure ⟨⟨lo, .leaf rfl rfl rfl, lie.le⟩, rfl⟩

end Strings

end AwaitLint.Grammar
