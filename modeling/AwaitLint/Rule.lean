import AwaitLint.Diagnostic
import AwaitLint.Number.Binary64

/-! # The rules: how much a finding weighs and what it says -/

namespace AwaitLint

/-- What is known about a rule. Its findings have identifiers that start with `mark`. -/
structure Rule where
  kind : Kind
  severity : Int
  confidence : Binary64
  description : String
  mark : String
  deriving Repr

namespace Rule

def ofKind : Kind → Rule
  | .waterfallChain => {
      kind := .waterfallChain
      severity := 3
      confidence := .ofDecimal false 6 (-1)
      description := "Flags async handlers and services with three or more sequential awaits "
        ++ "and no asyncio.gather()/asyncio.wait() anywhere in the function."
      mark := "wfc" }
  | .preferParallelCombinator => {
      kind := .preferParallelCombinator
      severity := 2
      confidence := .ofDecimal false 85 (-2)
      description :=
        "Flags runs of top-level awaited statements in a handler whose awaited expressions "
        ++ "reference nothing bound earlier in the run. They can run under one asyncio.gather()."
      mark := "ppc" }

def all : List Rule := Kind.all.map ofKind

/-- What is said about a finding that starts on `line`. -/
def message (kind : Kind) (line : Int) : String :=
  match kind with
  | .waterfallChain =>
      "Waterfall chain: the await on line " ++ toString line
      ++ " is the 3rd sequential await in this function. "
      ++ "Each await blocks the next, so the wait times add up. "
      ++ "Fix: start independent work together, "
      ++ "`a, b, c = await asyncio.gather(fetch_a(), fetch_b(), fetch_c())`, "
      ++ "or create tasks first and await them afterwards. "
      ++ "If every await needs the previous result, the order is intentional and this does not apply."
  | .preferParallelCombinator =>
      "Sequential awaits for independent work starting at line " ++ toString line ++ ". "
      ++ "None of these awaits uses a result bound by the ones before it, "
      ++ "so they run one after another for no reason. "
      ++ "Fix: `a, b = await asyncio.gather(fetch_a(), fetch_b())`. "
      ++ "Use `asyncio.gather(..., return_exceptions=True)` when each call may fail on its own. "
      ++ "If one result feeds the next call, keep the order and ignore this."

/-- Which of two rules comes first on one spot: the one with the concrete fix. -/
def priority : Kind → Nat
  | .preferParallelCombinator => 2
  | .waterfallChain => 1

end Rule

end AwaitLint
