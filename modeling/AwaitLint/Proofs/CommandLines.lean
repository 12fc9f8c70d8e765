import AwaitLint.Lint.Arguments
import Mathlib.Data.List.TakeWhile

/-! # Command lines for arguments

For any arguments with a path there is a command line from which they are read: the options come first, and
a divider stands before the paths, so that none of these is taken for an option.
-/

namespace AwaitLint.Lint

/-- A command line for arguments. -/
def Arguments.commandLine (a : Arguments) : List String :=
  (if a.force then ["--all"] else []) ++ ((if a.json then ["--json"] else []) ++
    ("--log-level=" ++ a.logLevel) :: "--" :: a.paths)

/-- The pieces of a command line for arguments. -/
def Arguments.pieces (a : Arguments) : List Piece :=
  (if a.force then [.option "--all" (some .all) none] else []) ++
    ((if a.json then [.option "--json" (some .json) none] else []) ++
      .option ("--log-level=" ++ a.logLevel) (some .logLevel) (some a.logLevel) :: .divider ::
        a.paths.map .word)

theorem Piece.all_cons {text : String} {piece : Piece} (before : text ≠ "--") (h : of text = .ok piece)
    {rest : List String} {pieces : List Piece} (hrest : all rest = .ok pieces) :
    all (text :: rest) = .ok (piece :: pieces) := by
  rw [all, if_neg before, h, hrest]
  rfl

theorem Piece.all_optional {text : String} {piece : Piece} (before : text ≠ "--") (h : of text = .ok piece)
    {rest : List String} {pieces : List Piece} (hrest : all rest = .ok pieces) (given : Bool) :
    all ((if given then [text] else []) ++ rest) = .ok ((if given then [piece] else []) ++ pieces) := by
  cases given with
  | false => exact hrest
  | true => exact all_cons before h hrest

theorem Piece.of_logLevel (level : String) :
    of ("--log-level=" ++ level) = .ok (.option ("--log-level=" ++ level) (some .logLevel) (some level)) := by
  have chars : ("--log-level=" ++ level).toList = "--log-level".toList ++ '=' :: level.toList := by
    rw [String.toList_append]
    rfl
  have value : splitValue ("--log-level=" ++ level).toList = ("--log-level", some level) := by
    rw [splitValue, chars]
    simp
  -- With its value behind it, the option is none of the spellings.
  have longer : Flag.ofSpelling? ("--log-level=" ++ level) = none := by
    have bare : ∀ s ∈ Flag.spellings, '=' ∉ s.1.toList := by decide
    rw [Flag.ofSpelling?, Option.map_eq_none_iff, List.find?_eq_none]
    intro s hs same
    refine bare s hs ?_
    rw [beq_iff_eq.1 same, chars]
    simp
  have dashed : ofDashed ("--log-level=" ++ level) ("--log-level=" ++ level).toList =
      .ok (.option ("--log-level=" ++ level) (some .logLevel) (some level)) := by
    rw [ofDashed, value]
    rfl
  rw [← dashed, of, chars, longer]
  rfl

/-- After a divider, all that is left are paths. -/
theorem Reading.run_paths {paths : List String} (h : paths ≠ []) (fuel : Nat) {r : Reading}
    (unseen : r.seenPaths = false) :
    run (fuel + 1) (.divider :: paths.map .word) r =
      .ok { r with seenPaths := true, arguments := { r.arguments with paths := paths } } := by
  have words : (Piece.divider :: paths.map .word).takeWhile (fun p => !p.isOption) =
      .divider :: paths.map .word := by
    rw [List.takeWhile_eq_self_iff]
    simp [Piece.isOption]
  have anyWord : (Piece.divider :: paths.map Piece.word).any (· != .divider) = true := by
    obtain ⟨p, ps, rfl⟩ := List.exists_cons_of_ne_nil h
    rfl
  have texts : (paths.map Piece.word).map Piece.text = paths := by
    rw [List.map_map]
    exact List.map_id _
  simp only [run, words, takeWords, unseen, anyWord, pathsOf, texts, List.drop_length]
  cases fuel <;> rfl

theorem Piece.all_commandLine (a : Arguments) : all a.commandLine = .ok a.pieces := by
  have before : "--log-level=" ++ a.logLevel ≠ "--" := by
    intro same
    have longer := congrArg (·.toList.length) same
    simp [String.toList_append] at longer
  have last : all ("--" :: a.paths) = .ok (.divider :: a.paths.map .word) := by
    rw [all, if_pos rfl]
  have first : of "--all" = .ok (.option "--all" (some .all) none) := by decide
  have second : of "--json" = .ok (.option "--json" (some .json) none) := by decide
  exact all_optional (by decide) first (all_optional (by decide) second (all_cons before (of_logLevel _) last) _) _

/-- Arguments with a path are read from their command line. -/
theorem Arguments.read_commandLine {a : Arguments} (h : a.paths ≠ []) : read a.commandLine = .ok a := by
  have options : Reading.run a.pieces.length a.pieces {} =
      Reading.run ((a.paths.map Piece.word).length + 1) (.divider :: a.paths.map .word)
        { arguments := { a with paths := [] } } := by
    obtain ⟨paths, force, json, level⟩ := a
    cases force <;> cases json <;> rfl
  rw [read, Piece.all_commandLine]
  simp only [options.trans (Reading.run_paths h _ rfl)]
  rfl

end AwaitLint.Lint
