import AwaitLint.Proofs.ScanPlaces

/-! # The comments of a header

A scan goes over a text piece by piece. It keeps all comments with their lines, and the header is what it has kept when
it meets the first piece that is neither a comment nor the end of a line. A text without `\r` has at most one comment in
a line, so the kept comments are in the order of their lines and the header comes first among them.
-/

namespace AwaitLint.Comment

open Text

/-- What a scan meets: a comment, the end of a line, or code. A token of several characters may be several pieces. -/
inductive Piece
  | comment (text : List Char)
  | lineBreak
  | code
  deriving DecidableEq, Repr

/-- How a string goes on after its first quote, by the quotes that follow. -/
def stringEnd (quote : Char) (cs : List Char) : StringEnd :=
  match cs with
  | a :: b :: rest =>
    if a = quote ∧ b = quote then
      match tripleEnd quote 3 rest with
      | some n => .closed n
      | none => .joined
    else shortEnd quote 1 cs
  | _ => shortEnd quote 1 cs

/-- The pieces of the rest of a line; `fuel` bounds the steps. A string is a piece of the line on which it ends, and a
backslash that joins the next line is none. -/
def restPieces : Nat → List Char → List Piece
  | 0, _ => []
  | _, [] => []
  | fuel + 1, c :: cs =>
    let go (n : Nat) : List Piece := restPieces fuel ((c :: cs).drop n)
    if c = ' ' ∨ c = '\t' ∨ c = '\x0c' then go 1
    else if c = '\n' then .lineBreak :: go 1
    else if c = '\r' ∧ cs = ['\n'] then .lineBreak :: go 2
    else if c = '\\' ∧ (cs = ['\n'] ∨ cs = ['\r', '\n']) then []
    else if c = '#' then
      let text := (c :: cs).takeWhile fun d => d != '\r' && d != '\n'
      .comment text :: go text.length
    else if isQuote c then
      match stringEnd c cs with
      | .closed n => .code :: go n
      | .joined => []
      | .missing => .code :: go 1
    else .code :: go 1

/-- The pieces of a line. A change of the indentation is a piece of its own. -/
def linePieces (text : List Char) (s : Scan) : List Piece :=
  let fuel := text.length + 1
  match s.inString with
  | some o =>
    match o.end? text with
    | some n => .code :: restPieces fuel (text.drop n)
    | none => if !o.triple && !endsJoined text then [.code] else []
  | none =>
    if s.depth = 0 ∧ s.continued = false then
      match text.drop (indentation 0 0 text).2 with
      | [] => []
      | c :: cs =>
        if c = '#' then [.comment (wholeComment (c :: cs)), .lineBreak]
        else if c = '\r' ∨ c = '\n' then [.lineBreak]
        else if (indentation 0 0 text).1 = s.indents.headD 0 then restPieces fuel (c :: cs)
        else .code :: restPieces fuel (c :: cs)
    else restPieces fuel text

/-- The pieces of the lines from number `line` on, each with its line, up to where the scan stops. -/
def piecesFrom : Nat → List (List Char) → Scan → List (Nat × Piece)
  | _, [], _ => []
  | line, text :: rest, s =>
    match scanLine line text s with
    | .ok s' => (linePieces text s).map (line, ·) ++ piecesFrom (line + 1) rest s'
    | .error _ => []

/-- The pieces of a text. -/
def pieces (text : List Char) : List (Nat × Piece) := piecesFrom 1 (splitLines text) {}

/-- The comments among pieces. -/
def commentsAmong (ps : List (Nat × Piece)) : List (Int × String) :=
  ps.filterMap fun
    | (line, .comment text) => some ((line : Int), String.ofList text)
    | _ => none

/-- The piece is no code. -/
def opens (p : Nat × Piece) : Bool := p.2 != .code

/-- The comments before the first code. -/
def openingComments (ps : List (Nat × Piece)) : List String := (commentsAmong (ps.takeWhile opens)).map Prod.snd

@[simp] theorem commentsAmong_append (ps qs : List (Nat × Piece)) :
    commentsAmong (ps ++ qs) = commentsAmong ps ++ commentsAmong qs := List.filterMap_append

section Single

variable (line : Nat) (text : List Char)

@[simp] theorem commentsAmong_comment :
    commentsAmong [(line, .comment text)] = [((line : Int), String.ofList text)] := rfl

@[simp] theorem commentsAmong_lineBreak : commentsAmong [(line, .lineBreak)] = [] := rfl

@[simp] theorem commentsAmong_code : commentsAmong [(line, .code)] = [] := rfl

@[simp] theorem opens_comment : opens (line, .comment text) = true := rfl

@[simp] theorem opens_lineBreak : opens (line, .lineBreak) = true := rfl

@[simp] theorem opens_code : opens (line, .code) = false := rfl

end Single

theorem openingComments_single (p : Nat × Piece) :
    openingComments [p] = if opens p then (commentsAmong [p]).map Prod.snd else [] := by
  by_cases h : opens p = true <;> simp [openingComments, h, commentsAmong]

/-! ## The state that follows pieces -/

/-- The scan has met these pieces. While a string is open it is not said whether there has been code. -/
structure Scan.Follows (s : Scan) (ps : List (Nat × Piece)) : Prop where
  byLine : s.byLine = commentsAmong ps
  header : s.header = openingComments ps
  inHeader : s.inString = none → s.inHeader = ps.all opens

/-- A line without a `\r` except at its end. -/
def OneLine (cs : List Char) : Prop := ∃ b e, cs = b ++ e ∧ (∀ c ∈ b, IsInner c) ∧ IsLineEnd e

theorem openingComments_append (ps qs : List (Nat × Piece)) :
    openingComments (ps ++ qs) = openingComments ps ++ if ps.all opens then openingComments qs else [] := by
  unfold openingComments
  rw [List.takeWhile_append]
  by_cases h : ps.all opens = true
  · have hall : ps.takeWhile opens = ps := List.takeWhile_eq_self_iff.2 (List.all_eq_true.1 h)
    simp [hall, h]
  · have hlt : ¬(ps.takeWhile opens).length = ps.length := by
      intro hlen
      have heq := (List.takeWhile_prefix opens).eq_of_length hlen
      exact h (List.all_eq_true.2 (List.takeWhile_eq_self_iff.1 heq))
    simp [hlt, h]

namespace Scan.Follows

variable {s s' : Scan} {ps : List (Nat × Piece)} {line : Nat}

/-- What else changes in the state does not matter. -/
theorem of_same (h : s.Follows ps) (clear : s.inString = none) (byLine : s'.byLine = s.byLine)
    (header : s'.header = s.header) (inHeader : s'.inHeader = s.inHeader) : s'.Follows ps where
  byLine := byLine.trans h.byLine
  header := header.trans h.header
  inHeader _ := inHeader.trans (h.inHeader clear)

theorem stay (h : s.Follows ps) : s.Follows (ps ++ ([] : List Piece).map (line, ·)) := by
  rwa [List.map_nil, List.append_nil]

/-- A string is left open. -/
theorem of_open (h : s.Follows ps) (byLine : s'.byLine = s.byLine) (header : s'.header = s.header)
    (open_ : s'.inString ≠ none) : s'.Follows ps where
  byLine := byLine.trans h.byLine
  header := header.trans h.header
  inHeader clear := absurd clear open_

theorem code (h : s.Follows ps) (byLine : s'.byLine = s.byLine) (header : s'.header = s.header)
    (inHeader : s'.inHeader = false) : s'.Follows (ps ++ [(line, .code)]) where
  byLine := by simp [byLine, h.byLine]
  header := by simp [header, h.header, openingComments_append, openingComments_single]
  inHeader _ := by simp [inHeader]

theorem lineBreak (h : s.Follows ps) : s.Follows (ps ++ [(line, .lineBreak)]) where
  byLine := by simp [h.byLine]
  header := by simp [h.header, openingComments_append, openingComments_single]
  inHeader clear := by simp [h.inHeader clear]

theorem comment (h : s.Follows ps) (clear : s.inString = none) (below : ∀ e ∈ s.byLine, e.1 < line)
    (text : List Char) : (s.record line text).Follows (ps ++ [(line, .comment text)]) where
  byLine := by
    have fresh : s.byLine.any (·.1 == (line : Int)) = false := by
      rw [List.any_eq_false]
      intro e he
      have := below e he
      simp only [beq_iff_eq]
      omega
    simp only [record, fresh, Bool.false_eq_true, if_false, commentsAmong_append, commentsAmong_comment, ← h.byLine]
  header := by
    rw [openingComments_append, ← h.inHeader clear]
    simp only [record, h.header]
    split <;> simp [openingComments_single]
  inHeader _ := by
    have := h.inHeader clear
    simp [record, this]

theorem lineBreaks (h : s.Follows ps) {qs : List Piece} (hqs : ∀ q ∈ qs, q = .lineBreak) :
    s.Follows (ps ++ qs.map (line, ·)) := by
  induction qs generalizing ps with
  | nil => simpa using h
  | cons q qs ih =>
    rw [List.forall_mem_cons] at hqs
    rw [List.map_cons, List.append_cons]
    exact ih (hqs.1 ▸ h.lineBreak) hqs.2

end Scan.Follows

/-! ## One line -/

theorem OneLine.drop {cs : List Char} (h : OneLine cs) (n : Nat) : OneLine (cs.drop n) := by
  obtain ⟨b, e, rfl, inner, ends⟩ := h
  refine ⟨b.drop n, e.drop (n - b.length), List.drop_append, fun c hc => inner c (List.mem_of_mem_drop hc), ?_⟩
  rcases ends with rfl | rfl | rfl
  · simp [IsLineEnd]
  · rcases n - b.length with _ | k <;> simp [IsLineEnd]
  · rcases n - b.length with _ | _ | k <;> simp [IsLineEnd]

theorem restPieces_lineEnd {e : List Char} (ends : IsLineEnd e) (fuel : Nat) :
    ∀ p ∈ restPieces fuel e, p = .lineBreak := by
  have hnil (fuel : Nat) : restPieces fuel [] = [] := by cases fuel <;> rfl
  cases fuel with
  | zero => simp [restPieces]
  | succ fuel => rcases ends with rfl | rfl | rfl <;> simp [restPieces, hnil]

theorem stringEnd_single {c : Char} {cs : List Char} (single : ∀ more, cs ≠ c :: c :: more) :
    stringEnd c cs = shortEnd c 1 cs := by
  unfold stringEnd
  split
  · next a b rest =>
    have : ¬(a = c ∧ b = c) := by
      rintro ⟨rfl, rfl⟩
      exact single rest rfl
    rw [if_neg this]
  · rfl

theorem restPieces_quote {c : Char} (hc : IsQuote c) (fuel : Nat) (cs : List Char) :
    restPieces (fuel + 1) (c :: cs) =
      match stringEnd c cs with
      | .closed n => .code :: restPieces fuel ((c :: cs).drop n)
      | .joined => []
      | .missing => .code :: restPieces fuel cs := by
  rcases hc with rfl | rfl <;> rfl

section Line

variable {s s' : Scan} {ps : List (Nat × Piece)} {line : Nat}

/-- The rest of a line takes the scan over its pieces. -/
theorem Scan.Follows.rest (h : s.Follows ps) (clear : s.inString = none) (below : ∀ e ∈ s.byLine, e.1 < line)
    {cs : List Char} (one : OneLine cs) (fuel column : Nat) (word : List Char) :
    (scanCode line fuel column word cs s).Follows (ps ++ (restPieces fuel cs).map (line, ·)) := by
  induction fuel generalizing s ps column word cs with
  | zero => simpa [restPieces, scanCode] using h
  | succ fuel ih =>
    cases cs with
    | nil => simpa [restPieces, scanCode] using h
    | cons c cs =>
      -- after a piece of code the scan goes on with what is left of the line
      have code (n column : Nat) (word : List Char) {s' : Scan} (byLine : s'.byLine = s.byLine)
          (header : s'.header = s.header) (inHeader : s'.inHeader = false) (clear' : s'.inString = none) :
          (scanCode line fuel column word ((c :: cs).drop n) s').Follows
            (ps ++ (Piece.code :: restPieces fuel ((c :: cs).drop n)).map (line, ·)) := by
        rw [List.map_cons, List.append_cons]
        exact ih (h.code byLine header inHeader) clear' (byLine ▸ below) (one.drop n) _ _
      by_cases hquote : isQuote c = true
      · have hc : IsQuote c := by simpa [isQuote, IsQuote] using hquote
        rw [restPieces_quote hc]
        by_cases htriple : ∃ more, cs = c :: c :: more
        · obtain ⟨more, rfl⟩ := htriple
          obtain ⟨start, hstep⟩ := scanCode_triple hc line fuel column word more s
          rw [hstep, stringEnd, if_pos ⟨rfl, rfl⟩]
          cases tripleEnd c 3 more with
          | some n => exact code _ _ _ rfl rfl rfl clear
          | none => exact .stay (h.of_open rfl rfl (Option.some_ne_none _))
        · have single : ∀ more, cs ≠ c :: c :: more := fun more hmore => htriple ⟨more, hmore⟩
          obtain ⟨start, hstep⟩ := scanCode_short hc single line fuel column word s
          rw [hstep, stringEnd_single single, scanCode.short]
          cases shortEnd c 1 cs with
          | closed n => exact code _ _ _ rfl rfl rfl clear
          | joined => exact .stay (h.of_open rfl rfl (Option.some_ne_none _))
          | missing => exact code 1 _ _ rfl rfl rfl clear
      rw [scanCode, restPieces]
      dsimp only
      by_cases hblank : c = ' ' ∨ c = '\t' ∨ c = '\x0c'
      · rw [if_pos (by tauto), if_pos hblank]
        exact ih h clear below (one.drop 1) _ _
      by_cases hend : c = '\n'
      · rw [if_pos (by tauto), if_neg hblank, if_pos hend, List.map_cons, List.append_cons]
        exact ih h.lineBreak clear below (one.drop 1) _ _
      rw [if_neg (by tauto), if_neg hblank, if_neg hend]
      split
      · rw [List.map_cons, List.append_cons]
        exact ih h.lineBreak clear below (one.drop 2) _ _
      split
      · exact .stay (h.of_same clear rfl rfl rfl)
      split
      · -- nothing but the end of the line comes after a comment
        next hc =>
        subst hc
        obtain ⟨b, e, hcs, inner, ends⟩ := one
        rw [hcs, takeWhile_comment inner ends, List.drop_left, scanCode_lineEnd ends, List.map_cons, List.append_cons]
        exact (h.comment clear below b).lineBreaks (restPieces_lineEnd ends fuel)
      split
      · exact code 1 _ _ rfl rfl rfl clear
      split
      · exact code 1 _ _ rfl rfl rfl clear
      · exact code 1 _ _ rfl rfl rfl clear

theorem Scan.Follows.restAfterCode (h : s.Follows ps) (below : ∀ e ∈ s.byLine, e.1 < line) {cs : List Char}
    (one : OneLine cs) (fuel column : Nat) (byLine : s'.byLine = s.byLine) (header : s'.header = s.header)
    (inHeader : s'.inHeader = false) (clear : s'.inString = none) :
    (scanCode line fuel column [] cs s').Follows (ps ++ (Piece.code :: restPieces fuel cs).map (line, ·)) := by
  rw [List.map_cons, List.append_cons]
  exact (h.code byLine header inHeader).rest clear (byLine ▸ below) one _ _ _

/-- A line that starts in a string. -/
theorem Scan.Follows.lineInString (h : s.Follows ps) (below : ∀ e ∈ s.byLine, e.1 < line) {text : List Char}
    (one : OneLine text) {o : OpenString} (inside : s.inString = some o) (step : scanLine line text s = .ok s') :
    s'.Follows (ps ++ (linePieces text s).map (line, ·)) := by
  unfold scanLine at step
  unfold linePieces
  rw [inside] at step ⊢
  change (match o.end? text with | some n => _ | none => _) = _ at step
  dsimp only
  cases hend : o.end? text with
  | some n =>
    rw [hend] at step
    cases step
    exact h.restAfterCode below (one.drop n) _ _ rfl rfl rfl rfl
  | none =>
    rw [hend] at step
    dsimp only at step
    split at step
    · next hstop =>
      cases step
      rw [if_pos hstop]
      exact h.code rfl rfl rfl
    · next hopen =>
      cases step
      rw [if_neg hopen]
      exact h.stay

/-- A line that starts outside of strings. -/
theorem Scan.Follows.lineOfCode (h : s.Follows ps) (below : ∀ e ∈ s.byLine, e.1 < line) {text : List Char}
    (one : OneLine text) (clear : s.inString = none) (step : scanLine line text s = .ok s') :
    s'.Follows (ps ++ (linePieces text s).map (line, ·)) := by
  unfold scanLine at step
  unfold linePieces
  rw [clear] at step ⊢
  dsimp only at step ⊢
  split at step
  case isFalse inside =>
    cases step
    rw [if_neg inside]
    have unjoined : ({ s with continued := false, inString := none } : Scan).Follows ps :=
      h.of_same clear rfl rfl rfl
    exact unjoined.rest rfl below one _ _ _
  case isTrue outside =>
  rw [if_pos outside]
  have rest : OneLine (text.drop (indentation 0 0 text).2) := one.drop _
  generalize text.drop (indentation 0 0 text).2 = cs at step rest ⊢
  cases cs with
  | nil =>
    cases step
    exact h.stay
  | cons c cs =>
  dsimp only at step ⊢
  split at step
  case isTrue hc =>
    cases step
    rw [if_pos hc, List.map_cons, List.append_cons]
    exact (h.comment clear below _).lineBreaks (by simp)
  case isFalse hc =>
  rw [if_neg hc]
  split at step
  case isTrue hend =>
    cases step
    rw [if_pos hend]
    exact h.lineBreak
  case isFalse hend =>
  rw [if_neg hend]
  split at step
  case isTrue deeper =>
    cases step
    rw [if_neg (by omega)]
    exact h.restAfterCode below rest _ _ rfl rfl rfl clear
  case isFalse =>
  split at step
  case isTrue higher =>
    split at step
    · cases step
      rw [if_neg (by omega)]
      exact h.restAfterCode below rest _ _ rfl rfl rfl clear
    · cases step
  case isFalse =>
    cases step
    rw [if_pos (by omega)]
    exact h.rest clear below rest _ _ _

/-- A line takes the scan over its pieces. -/
theorem Scan.Follows.wholeLine (h : s.Follows ps) (below : ∀ e ∈ s.byLine, e.1 < line) {text : List Char}
    (one : OneLine text) (step : scanLine line text s = .ok s') :
    s'.Follows (ps ++ (linePieces text s).map (line, ·)) := by
  cases hstring : s.inString with
  | some o => exact h.lineInString below one hstring step
  | none => exact h.lineOfCode below one hstring step

end Line

/-! ## All lines -/

theorem header_scanLines_nil (line : Nat) (s : Scan) : (scanLines line [] s).header = s.header := by
  rw [scanLines]
  split
  · rfl
  · split <;> rfl

/-- The scan of the lines from a number on keeps the comments that it meets, and for the header those before the first
code. -/
theorem Scan.Follows.lines {s : Scan} {ps : List (Nat × Piece)} {ls : List (List Char)} (h : s.Follows ps) (line : Nat)
    (below : ∀ e ∈ s.byLine, e.1 < line) (one : ∀ l ∈ ls, OneLine l) :
    (scanLines line ls s).byLine = commentsAmong (ps ++ piecesFrom line ls s) ∧
      (scanLines line ls s).header = openingComments (ps ++ piecesFrom line ls s) := by
  induction ls generalizing line s ps with
  | nil =>
    rw [byLine_scanLines_nil, header_scanLines_nil, piecesFrom, List.append_nil]
    exact ⟨h.byLine, h.header⟩
  | cons l ls ih =>
    rw [List.forall_mem_cons] at one
    rw [scanLines, piecesFrom]
    cases hs : scanLine line l s with
    | ok s' =>
      have below' : ∀ e ∈ s'.byLine, e.1 < (line + 1 : Nat) := by
        intro e he
        rcases (scanLine_notes hs).mem_or_comment he with he | ⟨hl, -⟩
        · have := below e he
          omega
        · omega
      rw [← List.append_assoc]
      exact ih (h.wholeLine below one.1 hs) (line + 1) below' one.2
    | error => simpa using ⟨h.byLine, h.header⟩

theorem pairwise_piecesFrom (line : Nat) (ls : List (List Char)) (s : Scan) :
    (∀ p ∈ piecesFrom line ls s, line ≤ p.1) ∧ (piecesFrom line ls s).Pairwise (·.1 ≤ ·.1) := by
  induction ls generalizing line s with
  | nil => simp [piecesFrom]
  | cons l ls ih =>
    rw [piecesFrom]
    cases scanLine line l s with
    | error => simp
    | ok s' =>
      obtain ⟨later, sorted⟩ := ih (line + 1) s'
      refine ⟨?_, List.pairwise_append.2 ⟨?_, sorted, ?_⟩⟩
      · intro p hp
        rcases List.mem_append.1 hp with hp | hp
        · obtain ⟨q, -, rfl⟩ := List.mem_map.1 hp
          exact Nat.le_refl line
        · exact Nat.le_of_succ_le (later p hp)
      · exact List.pairwise_map.2 (List.pairwise_of_forall fun _ _ => Nat.le_refl line)
      · intro p hp q hq
        obtain ⟨x, -, rfl⟩ := List.mem_map.1 hp
        exact Nat.le_of_succ_le (later q hq)

theorem pairwise_commentsAmong {ps : List (Nat × Piece)} (h : ps.Pairwise (·.1 ≤ ·.1)) :
    (commentsAmong ps).Pairwise (·.1 ≤ ·.1) := by
  refine h.filterMap _ ?_
  rintro ⟨l, p⟩ ⟨m, q⟩ hle e he f hf
  cases p <;> cases q <;> simp at he hf
  subst he hf
  simpa using hle

theorem returnsPaired_of_not_mem {text : List Char} (plain : '\r' ∉ text) : returnsPaired text = true := by
  fun_induction returnsPaired text with
  | case1 => rfl
  | case2 cs ih => simp at plain
  | case3 c cs _ ih =>
    rw [List.mem_cons, not_or] at plain
    simpa using ⟨Ne.symm plain.1, ih plain.2⟩

theorem oneLine_of_mem_splitLines {text l : List Char} (plain : '\r' ∉ text) (hl : l ∈ splitLines text) :
    OneLine l := by
  obtain ⟨i, hi⟩ := List.mem_iff_getElem?.1 hl
  obtain ⟨b, e, hparts, inner, ends, -⟩ :=
    (sameLines_of_line (returnsPaired_of_not_mem plain) hi).exists_parts hi
  exact ⟨b, e, hparts, inner, ends⟩

/-- A comment of a line without `\r` ends it. -/
theorem suffix_of_isCommentOf {l c : List Char} (one : OneLine l) (plain : '\r' ∉ l) (h : IsCommentOf l c) :
    c <:+ l.takeWhile (· ≠ '\n') := by
  obtain ⟨b, e, rfl, inner, ends⟩ := one
  obtain ⟨before, rest, after, hparts, hmark, last, stop⟩ := h
  have last' : ∀ x ∈ (before ++ c).getLast?, IsInner x := by
    rwa [List.getLast?_append_of_ne_nil before (by simp [hmark])]
  obtain ⟨rfl, rfl⟩ := ends.eq_of_append inner last' stop hparts
  have htake : (before ++ c ++ after).takeWhile (· ≠ '\n') = before ++ c := by
    rw [List.takeWhile_append_of_pos fun x hx => by simpa using (inner x hx).2]
    rcases ends with rfl | rfl | rfl
    · simp
    · simp
    · simp at plain
  rw [htake]
  exact List.suffix_append before c

/-- An entry stands under a line of the text, is a comment, and the line ends with it. -/
structure EndsLine (text : List Char) (e : Int × String) : Prop where
  first : 1 ≤ e.1
  last : e.1 ≤ (splitLines text).length
  marked : e.2.toList.head? = some '#'
  ends : ∃ l, (splitLines text)[(e.1 - 1).toNat]? = some l ∧ e.2.toList <:+ l.takeWhile (· ≠ '\n')

end AwaitLint.Comment
