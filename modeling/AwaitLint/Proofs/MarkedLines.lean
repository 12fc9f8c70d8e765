import AwaitLint.Analysis
import AwaitLint.Proofs.PassedComments

/-! # Comments and findings on the same lines

Findings are on the lines that the parser counts, and comments on the lines that the scan counts. The main
statement says for every text without a lone `\r` that they are counted alike, so a bare marker silences
its line. What may get in the way is that the scan stops early in a ragged text.
-/

namespace AwaitLint

open Text

namespace Comment

/-- A line of the text has only blanks before a backslash. -/
def isRagged (text : List Char) : Bool := (splitLines text).any startsJoined

/-- Without a lone `\r`, the scan finds every comment that the lexer passes over, under the line that the
lexer counts, unless it has stopped before. -/
theorem met_of_mem_comments {text : List Char} (paired : returnsPaired text = true) {e : Nat × String}
    (he : e ∈ Grammar.comments text) : Met (isRagged text = true) (scan text) e := by
  by_cases hne : text = []
  · subst hne
    cases he
  · have lines := sameLines_of_returnsPaired paired hne
    have joined : ∀ l ∈ splitLines text, startsJoined l = true → isRagged text = true := fun l hl hjoined =>
      List.any_eq_true.2 ⟨l, hl, hjoined⟩
    refine Tracks.run ?_ ?_ e he
    · refine ⟨⟨Grammar.Indent.zero, by simp, rfl⟩, .inr ?_⟩
      rw [if_pos rfl]
      exact ⟨{}, ⟨rfl, rfl, rfl, fun _ => rfl⟩, lines, joined, rfl⟩
    · simp only [Grammar.LexState.work, if_true]
      omega

theorem at?_of_met {text : List Char} {ragged : Prop} {e : Nat × String} (h : Met ragged (scan text) e) :
    (scan text).at? e.1 = some e.2 ∨ StoppedBy ragged (scan text) e.1 :=
  h.imp_left at?_of_mem

theorem isSuppressed_of_bare {comments : Comments} {d : Diagnostic} {text : String}
    (hline : comments.at? d.line = some text) (hbare : noqaCodes text = some []) :
    isSuppressed comments d = true := by
  simp [isSuppressed, hline, silences, hbare]

end Comment

namespace Analysis

open Comment (isRagged scan noqaCodes)

theorem not_isSuppressed_of_run {settings : Settings} {r : Request} {o : Outcome}
    (h : run settings r = .ok o) {d : Diagnostic} (hd : d ∈ o.diagnostics) :
    Comment.isSuppressed (scan r.code.toList) d = false := by
  obtain ⟨tree, rfl⟩ : ∃ tree, ofTree settings r tree = o := by
    unfold run at h
    cases htree : parse r with
    | error e => rw [htree] at h; cases h
    | ok tree => rw [htree] at h; exact ⟨tree, Except.ok.inj h⟩
  have hkept := (List.mem_filter.1 (List.mem_mergeSort.1 hd)).2
  simpa using hkept

/-- In a text without a lone `\r` every comment is kept under the line that the parser gives to its place.
Every comment that the parser passes over is found under the parser's line, and if it is a bare marker,
no finding is left on that line; the exception is a ragged text in which the scan stops before it. -/
theorem run_silences_bare_lines {text : List Char} (paired : returnsPaired text = true) :
    (∀ e ∈ (scan text).byLine, ∃ before, Comment.HasCommentAfter text before e.2.toList ∧
      e.1 = Grammar.lineAfter before) ∧
    ∀ e ∈ Grammar.comments text,
      ((scan text).at? e.1 = some e.2 ∧ (noqaCodes e.2 = some [] → ∀ settings r o, r.code.toList = text →
        run settings r = .ok o → ∀ d ∈ o.diagnostics, d.line ≠ e.1)) ∨
      isRagged text = true ∧ ∃ k ≤ e.1, (scan text).stopped = some (.unindent k) := by
  refine ⟨fun e he => Comment.line_of_mem_scan paired he, fun e he => ?_⟩
  rcases Comment.at?_of_met (Comment.met_of_mem_comments paired he) with hline | hstopped
  · refine .inl ⟨hline, fun hbare settings r o hcode hrun d hd hanchor => ?_⟩
    subst hcode
    have hkept := not_isSuppressed_of_run hrun hd
    rw [← hanchor] at hline
    rw [Comment.isSuppressed_of_bare hline hbare] at hkept
    cases hkept
  · exact .inr hstopped

/-- Two awaits that could run together; the line that would be reported has a bare marker. -/
def markedRequest (lineEnd : String) : Request where
  code := "async def f():" ++ lineEnd ++ "    a = await g()" ++ lineEnd ++ "    b = await h()  # noqa" ++ lineEnd

theorem run_silences_bare_lines_pairedReturns :
    let r := markedRequest "\r\n"
    returnsPaired r.code.toList = true ∧ (3, "# noqa") ∈ Grammar.comments r.code.toList ∧
      noqaCodes "# noqa" = some [] ∧
      ∃ o, run .default r = .ok o ∧ o.eligibility.runs = true ∧ ∀ d ∈ o.diagnostics, d.line ≠ 3 := by
  intro r
  obtain ⟨paired, passed, bare, even, applies⟩ : returnsPaired r.code.toList = true ∧
      (3, "# noqa") ∈ Grammar.comments r.code.toList ∧ noqaCodes "# noqa" = some [] ∧
      isRagged r.code.toList = false ∧ (run .default r).toOption.map (·.eligibility.runs) = some true := by
    decide +kernel
  refine ⟨paired, passed, bare, ?_⟩
  cases hrun : run .default r with
  | error e => simp [hrun, Except.toOption] at applies
  | ok o =>
    refine ⟨o, rfl, by simpa [hrun, Except.toOption] using applies, ?_⟩
    rcases (run_silences_bare_lines paired).2 _ passed with ⟨-, silenced⟩ | ⟨ragged, -⟩
    · exact silenced bare .default r o rfl hrun
    · simp [even] at ragged

/-- With a lone `\r` at the end of each line, the parser counts three lines and the scan one. The comment
on the third line is kept under the first, and the finding on the third line stays. -/
theorem run_keeps_finding_on_bare_line :
    let r := markedRequest "\r"
    (∃ before, Comment.HasCommentAfter r.code.toList before "# noqa".toList ∧ Grammar.lineAfter before = 3) ∧
      (3, "# noqa") ∈ Grammar.comments r.code.toList ∧ noqaCodes "# noqa" = some [] ∧
      (scan r.code.toList).byLine = [(1, "# noqa")] ∧
      ∃ o, run .default r = .ok o ∧ ∃ d ∈ o.diagnostics, d.line = 3 := by
  intro r
  let before := "async def f():\r    a = await g()\r    b = await h()  ".toList
  obtain ⟨parts, counted, passed, bare, kept, reported⟩ :
      r.code.toList = before ++ "# noqa".toList ++ ['\r'] ∧ Grammar.lineAfter before = 3 ∧
      (3, "# noqa") ∈ Grammar.comments r.code.toList ∧ noqaCodes "# noqa" = some [] ∧
      (scan r.code.toList).byLine = [(1, "# noqa")] ∧
      (run .default r).toOption.map (·.diagnostics.map (·.line)) = some [3] := by
    decide +kernel
  have place : Comment.HasCommentAfter r.code.toList before "# noqa".toList :=
    ⟨['\r'], parts, rfl, by simp [IsInner], by simp [IsInner]⟩
  refine ⟨⟨before, place, counted⟩, passed, bare, kept, ?_⟩
  cases hrun : run .default r with
  | error e => simp [hrun, Except.toOption] at reported
  | ok o =>
    have hlines : o.diagnostics.map (·.line) = [3] := by simpa [hrun, Except.toOption] using reported
    have hmem : (3 : Int) ∈ o.diagnostics.map (·.line) := by simp [hlines]
    exact ⟨o, rfl, List.mem_map.1 hmem⟩

/-- The scan of a ragged text may stop before a comment, although the text parses: a line that starts with
a backslash takes back all levels for the scan and none for the parser. -/
example :
    let text := ("async def f():\n    if x:\n        p = 1\n\\\n        q = 2\n        r = 3\n" ++
      "    a = await g()\n    b = await h()  # noqa\n").toList
    (Grammar.parseText text).isOk = true ∧ isRagged text = true ∧ (8, "# noqa") ∈ Grammar.comments text ∧
      (scan text).stopped = some (.unindent 7) ∧ (scan text).byLine = [] := by
  decide +kernel

end Analysis

end AwaitLint
