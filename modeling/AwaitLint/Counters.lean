import AwaitLint.Diagnostic

/-! # Counters -/

namespace AwaitLint

/-- What has been counted since the start. -/
structure Counters where
  hits : Nat := 0
  misses : Nat := 0
  parseErrors : Nat := 0
  analyses : Nat := 0
  waterfallChains : Nat := 0
  parallelRuns : Nat := 0
  timeouts : Nat := 0
  crashes : Nat := 0
  deriving DecidableEq, Repr, Inhabited

namespace Counters

def hit (c : Counters) : Counters := { c with hits := c.hits + 1 }
def miss (c : Counters) : Counters := { c with misses := c.misses + 1 }
def parseError (c : Counters) : Counters := { c with parseErrors := c.parseErrors + 1 }
def analysis (c : Counters) : Counters := { c with analyses := c.analyses + 1 }
def timeout (c : Counters) : Counters := { c with timeouts := c.timeouts + 1 }
def crash (c : Counters) : Counters := { c with crashes := c.crashes + 1 }

def finding (k : Kind) (c : Counters) : Counters :=
  match k with
  | .waterfallChain => { c with waterfallChains := c.waterfallChains + 1 }
  | .preferParallelCombinator => { c with parallelRuns := c.parallelRuns + 1 }

def findings (ks : List Kind) (c : Counters) : Counters := ks.foldl (fun c k => c.finding k) c

/-- The counters by name. -/
def named (c : Counters) : List (String × Nat) :=
  [("cache_hit_total", c.hits), ("cache_miss_total", c.misses), ("parse_error_total", c.parseErrors),
    ("analyze_latency_seconds_count", c.analyses),
    ("diagnostics_total waterfall-chain", c.waterfallChains),
    ("diagnostics_total prefer-parallel-combinator", c.parallelRuns),
    ("batch_file_error_total timeout", c.timeouts), ("batch_file_error_total crash", c.crashes)]

/-- The counters that differ, with by how much they grew. -/
def since (before after : Counters) : List (String × Nat) :=
  ((before.named.zip after.named).map fun (b, a) => (a.1, a.2 - b.2)).filter (·.2 ≠ 0)

/-- A family of counters as it is published. -/
structure Family where
  name : String
  help : String
  type : String
  samples : List (String × Nat)

def families (c : Counters) : List Family :=
  [⟨"analyze_latency_seconds", "Time spent analyzing one source unit", "histogram",
      [("analyze_latency_seconds_count", c.analyses)]⟩,
    ⟨"cache_hit_total", "Cache hits on source analysis", "counter", [("cache_hit_total", c.hits)]⟩,
    ⟨"cache_miss_total", "Cache misses on source analysis", "counter",
      [("cache_miss_total", c.misses)]⟩,
    ⟨"diagnostics_total", "Diagnostics reported", "counter",
      [("diagnostics_total\x7brule=\"waterfall-chain\"\x7d", c.waterfallChains),
        ("diagnostics_total\x7brule=\"prefer-parallel-combinator\"\x7d", c.parallelRuns)]⟩,
    ⟨"parse_error_total", "Source units rejected by the parser", "counter",
      [("parse_error_total", c.parseErrors)]⟩,
    ⟨"batch_file_error_total", "Batch files that produced no result", "counter",
      [("batch_file_error_total\x7breason=\"timeout\"\x7d", c.timeouts),
        ("batch_file_error_total\x7breason=\"crash\"\x7d", c.crashes)]⟩]

/-- The lines of a family: what it is for, what it is, and its numbers. -/
def Family.lines (f : Family) : List String :=
  ("# HELP " ++ f.name ++ " " ++ f.help) :: ("# TYPE " ++ f.name ++ " " ++ f.type)
    :: f.samples.map fun (name, n) => name ++ " " ++ toString n ++ ".0"

def lines (c : Counters) : List String := c.families.flatMap Family.lines

end Counters

end AwaitLint
