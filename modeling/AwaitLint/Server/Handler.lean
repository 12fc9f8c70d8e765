import AwaitLint.Admission
import AwaitLint.Batch
import AwaitLint.Server.Endpoint
import AwaitLint.Server.Message

/-! # Answering requests -/

namespace AwaitLint.Server

open Record

/-- The body of a response. -/
inductive Content
  | json (value : Json)
  | text (type body : String)
  | none

structure Response where
  status : Nat
  requestId : String
  content : Content

namespace Content

def type? : Content → Option String
  | json _ => some "application/json"
  | text type _ => some type
  | none => Option.none

def detail (message : String) : Content := json (.obj [("detail", .str message)])

end Content

/-- An issue as clients see it. -/
def issueJson (i : Issue) : Json :=
  .obj [("type", .str i.problem.code),
    ("loc", .arr (i.path.map fun s => match s with
      | .field name => .str name
      | .index n => .int n)),
    ("msg", .str i.problem.message)]

def inBody (is : List Issue) : List Issue := is.map (Issue.under (.field "body"))

/-- Whether a content type says JSON. Without one the body is taken for JSON. -/
def saysJson : Option String → Bool
  | none => true
  | some type =>
    let kind := Text.strip (Text.lower (String.ofList (type.toList.takeWhile (· != ';'))))
    kind = "" || kind = "application/json"
      || (kind.startsWith "application/" && kind.endsWith "+json")

/-- The value in the body of a request; a missing one counts as null. -/
def bodyValue (r : Request) : Except (List Issue) Json :=
  if r.body = "" then .ok .null
  else if !saysJson (r.header? "content-type") then .error (inBody [⟨[], .notFields⟩])
  else
    let text := match r.body.toList with
      | '\uFEFF' :: cs => cs
      | cs => cs
    match Json.read text with
    | .ok j => .ok j
    | .error position => .error (inBody [⟨[.index position], .badJson⟩])

/-- The record in the body of a request. -/
def bodyRecord {α : Type} (d : Decoder α) (r : Request) : Except (List Issue) α :=
  match bodyValue r with
  | .error is => .error is
  | .ok .null => .error (inBody [⟨[], .missing⟩])
  | .ok j => match d j with
    | .ok a => .ok a
    | .bad is => .error (inBody is)

def invalid (is : List Issue) : Nat × Content :=
  (422, .json (.obj [("detail", .arr (is.map issueJson))]))

def refused (r : Refusal) : Nat × Content := (r.status, .detail r.message)

/-- What the answers depend on besides the service. -/
structure Setup where
  settings : Settings
  fault? : Option String → Option Fault := fun _ => none
  revision : Option String := none

def analyze (s : Setup) (requestId : String) (r : Request) (v : Service) :
    (Nat × Content) × Service :=
  match bodyRecord (AnalyzeRequest.decoder .fields) r with
  | .error is => (invalid is, v)
  | .ok q =>
    match Admission.checkText s.settings q.language q.code q.filename with
    | .error e => (refused e, v)
    | .ok _ =>
      let (result, v) := v.analyze s.settings ⟨q.code, q.filename, requestId⟩
      ((200, .json result.toJson), v)

def batch (s : Setup) (requestId : String) (r : Request) (v : Service) :
    (Nat × Content) × Service :=
  match bodyRecord (BatchRequest.decoder .fields) r with
  | .error is => (invalid is, v)
  | .ok q =>
    let files := q.files.map fun f => (f.filename, f.code)
    match Admission.checkBatch s.settings q.language files with
    | .error e => (refused e, v)
    | .ok _ =>
      let (result, v) := Batch.dispatch s.settings s.fault? files requestId v
      ((200, .json result.toJson), v)

def rules (s : Setup) (requestId : String) : Json :=
  .obj [("rules", .arr (Rule.all.map fun r => (RuleInfo.ofRule r).toJson)),
    ("parallel_combinators", .strings (sortedNames s.settings.combinators)),
    ("request_id", .str requestId)]

/-- The store is only a cache, so without it the service is degraded and not down. -/
def health (s : Setup) (requestId : String) (v : Service) : Health :=
  let status := v.storeStatus
  ⟨if status = "ok" then .ok else .degraded, requestId, s.revision, some status⟩

def metrics (v : Service) : String :=
  String.join (v.counters.lines.map fun l => l ++ "\n")

def answer (s : Setup) (requestId : String) (r : Request) (v : Service) :
    (Nat × Content) × Service :=
  match Target.of r.method (pathOf r.path) with
  | .unknown => ((404, .detail "Not Found"), v)
  | .wrongMethod => ((405, .detail "Method Not Allowed"), v)
  | .redirect _ => ((307, .none), v)
  | .endpoint .analyze => analyze s requestId r v
  | .endpoint .batch => batch s requestId r v
  | .endpoint .rules => ((200, .json (rules s requestId)), v)
  | .endpoint .health => ((200, .json (health s requestId v).toJson), v)
  | .endpoint .metrics => ((200, .text "text/plain; charset=utf-8" (metrics v)), v)

/-- The identifier that the client sent, or a fresh one. -/
def identify (r : Request) (v : Service) : String × Service :=
  match r.header? "x-request-id" with
  | some id => if id = "" then fresh v else (id, v)
  | none => fresh v
where
  fresh (v : Service) : String × Service :=
    let (id, tickets) := v.tickets.drawUuid
    (id, { v with tickets := tickets })

def handle (s : Setup) (r : Request) (v : Service) : Response × Service :=
  let (id, v) := identify r v
  let ((status, content), v) := answer s id r v
  (⟨status, id, content⟩, v)

end AwaitLint.Server
