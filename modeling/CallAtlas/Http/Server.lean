import CallAtlas.Http.Endpoint
import CallAtlas.Service

/-! The HTTP interface of the service. The time of an answer is no part of its body here. -/
namespace CallAtlas.Http

open Store

variable [Engine]

def serviceName : String := "cgexplorer"

def announced : List String :=
  (Endpoint.all.drop 1).map fun e => e.location ++ e.usage

def health : Access Json := do
  let configured := (← read).isConfigured
  let well := (← Access.ping).isWell || !configured
  return .object [("status", .text (if well then "ok" else "degraded")),
    ("service", .text serviceName), ("dbConfigured", .bool configured)]

def healthDb : Access Json := do
  let source ← read
  let path := if source.isConfigured then Json.text source.path else .null
  let state ← Access.ping
  return .object ([("status", .text (if state.isWell then "ok" else "unavailable")),
    ("configured", .bool source.isConfigured), ("dbPath", path)] ++ state.fields)

def isTrue (value : Json) : Bool :=
  value.text?.any fun s => s.toLower == "true"

def answer (settings : Settings) (r : Request) : Endpoint → Access Json
  | .index => pure (.object [("name", .text "CallGraph Explorer backend"),
      ("endpoints", .list (announced.map Json.text))])
  | .health => health
  | .healthDb => healthDb
  | .queries => Service.listQueries (.bool (isTrue (r.param "includeSql")))
  | .search => Service.search (r.param "q") (r.param "limit")
  | .functionDetail => Json.object <$> Service.functionDetail (r.param "functionId")
  | .source => Service.source (r.param "functionId")
  | .file => Service.file settings (r.param "file")
  | .files => Service.listDirectory (r.param "path")
  | .fileFunctions => Service.fileFunctions settings (r.param "file")
  | .neighborhood => Service.Reached.toJson <$> Service.neighborhood (r.param "functionId")
  | .callChain => Service.Reached.toJson <$> Service.callChain (r.param "functionId")
  | .callers => Service.Reached.toJson <$> Service.callers (r.param "functionId")
  | .path => Service.paths (r.param "startFunctionId") (r.param "endFunctionId")

def failureReply? (e : Failure) : Option Reply :=
  e.class?.map fun c => .ofJson c.status (.object [("statusCode", .int c.status),
    ("error", .text (phrase c.status)), ("message", .text e.message)])

def notFound : Reply :=
  .ofJson 404 (.object [("detail", .text "Not Found")])

/-- The reply to a request. Faults in the data are not replied to but passed on. -/
def deliver (settings : Settings) (r : Request) : Access Reply := do
  match Endpoint.ofPath? r.path with
  | none => return notFound
  | some e =>
    try
      return .ofJson 200 (← answer settings r e)
    catch failure =>
      match failureReply? failure with
      | some reply => return reply
      | none => throw failure

/-- The reply to a request; a fault in the data is an internal error without any detail. -/
def respond (settings : Settings) (r : Request) : Access Reply := do
  try deliver settings r
  catch _ => return ⟨500, "Internal Server Error", throw .notJson⟩

end CallAtlas.Http
