import AwaitLint.Text.Case

/-! # Requests, responses and the places that answer -/

namespace AwaitLint.Server

structure Request where
  method : String
  path : String
  headers : List (String × String) := []
  body : String := ""
  deriving Repr

/-- The value of a header, whose name may be written in any case. -/
def Request.header? (name : String) (r : Request) : Option String :=
  (r.headers.find? fun h => Text.lower h.1 == name).map (·.2)

/-- The places that answer. -/
inductive Endpoint | health | metrics | analyze | batch | rules
  deriving DecidableEq, Repr

namespace Endpoint

def all : List Endpoint := [health, metrics, analyze, batch, rules]

def path : Endpoint → String
  | health => "/api/v1/health"
  | metrics => "/api/v1/metrics"
  | analyze => "/api/v1/analyze"
  | batch => "/api/v1/analyze/batch"
  | rules => "/api/v1/rules"

def method : Endpoint → String
  | health | metrics | rules => "GET"
  | analyze | batch => "POST"

def ofPath? (path : String) : Option Endpoint := all.find? fun e => e.path == path

end Endpoint

/-- Where a request goes. -/
inductive Target
  | endpoint (e : Endpoint)
  | wrongMethod
  | redirect (path : String)
  | unknown
  deriving DecidableEq, Repr

/-- The path without slashes at its end. -/
def withoutSlashes (path : String) : String :=
  String.ofList (path.toList.reverse.dropWhile (· == '/')).reverse

/-- A known path with slashes after it leads to the path without them, by any method. -/
def Target.of (method path : String) : Target :=
  match Endpoint.ofPath? path with
  | some e => if e.method = method then .endpoint e else .wrongMethod
  | none =>
    if path.endsWith "/" ∧ (Endpoint.ofPath? (withoutSlashes path)).isSome then
      .redirect (withoutSlashes path)
    else .unknown

/-- Reads the escapes of a path that stand for ASCII characters. The paths that answer have no
others. -/
def unescape : List Char → List Char
  | '%' :: a :: b :: cs =>
    match Text.hexDigit? a, Text.hexDigit? b with
    | some x, some y =>
      if x < 8 then Char.ofNat (16 * x + y) :: unescape cs else '%' :: unescape (a :: b :: cs)
    | _, _ => '%' :: unescape (a :: b :: cs)
  | c :: cs => c :: unescape cs
  | [] => []

/-- The path in an address, without a query or a fragment. -/
def pathOf (address : String) : String :=
  String.ofList (unescape (address.toList.takeWhile fun c => c != '?' && c != '#'))

end AwaitLint.Server
