import AwaitLint.Eligibility
import AwaitLint.Number.Binary64

/-! # Settings -/

namespace AwaitLint

structure Settings where
  storeUrl : String
  logLevel : String
  maxCodeBytes : Int
  cacheTtl : Int
  fileTimeout : Binary64
  batchTimeout : Binary64
  maxBatchFiles : Int
  parallelCombinators : String
  handlerPatterns : String
  servicePatterns : String
  deriving Repr, Inhabited

namespace Settings

def default : Settings where
  storeUrl := "redis://localhost:6379/0"
  logLevel := "INFO"
  maxCodeBytes := 200000
  cacheTtl := 604800
  fileTimeout := .ofNat 5
  batchTimeout := .ofNat 30
  maxBatchFiles := 200
  parallelCombinators := "asyncio.gather,asyncio.wait"
  handlerPatterns := "*/api/*,*/routes/*,*/handlers/*,*/actions/*,"
    ++ "*/route.py,*/routes.py,*/routes_*.py,*_routes.py,*_action.py,*_actions.py"
  servicePatterns := "*/services/*,*/workers/*,*_service.py,*_worker.py"

def combinators (s : Settings) : List String := splitCsv s.parallelCombinators

end Settings

end AwaitLint
