import CallAtlas.Client.Call
import CallAtlas.Client.Signature
import CallAtlas.Http.Location
import CallAtlas.Http.Server

namespace CallAtlas.Client

open Http

def messageOf (r : Reply) : String :=
  let message := ((r.payload.toOption.bind Json.fields?).map (·.get "message")).getD .null
  if message.isEmpty then r.text else message.shown

/-- What a reply means. An error status is a failure; a body that is nested too deep is another one
whatever the status. -/
def decode (r : Reply) : Except Failure Json :=
  match r.payload with
  | .error (.nestedTooDeep kind) => throw (.nestedTooDeep kind)
  | payload =>
    if r.isError then throw (.answered r.status (phrase r.status) (messageOf r)) else payload

def signatures : List (String × List Parameter) :=
  [("queries", [⟨"include_sql", some (.bool false)⟩]),
    ("search", [⟨"q", none⟩, ⟨"limit", some .null⟩]),
    ("function_detail", [⟨"function_id", none⟩]),
    ("source", [⟨"function_id", none⟩]),
    ("file", [⟨"file", none⟩]),
    ("file_functions", [⟨"file", none⟩]),
    ("files", [⟨"path", some (.text "")⟩]),
    ("neighborhood", [⟨"function_id", none⟩]),
    ("call_chain", [⟨"function_id", none⟩]),
    ("callers", [⟨"function_id", none⟩]),
    ("path", [⟨"start_function_id", none⟩, ⟨"end_function_id", none⟩]),
    ("aclose", []),
    ("__aexit__", [⟨"exc_type", none⟩, ⟨"exc_val", none⟩, ⟨"exc_tb", none⟩])]

/-- The call of a name; none where closing makes no request. Listing a directory cannot be called:
its one parameter has the name of the location, which is given already. -/
def Call.ofArguments (name : String) (a : Arguments) : Except Failure (Option Call) := do
  match signatures.find? (·.1 == name) with
  | none => throw (.lacksOperation "ExplorerClient" name)
  | some (_, parameters) =>
    let v ← Signature.bind ⟨"ExplorerClient." ++ name, parameters, false⟩ a
    let id := v.get "function_id"
    match name with
    | "queries" => return some (.queries !(v.get "include_sql").isEmpty)
    | "search" => return some (.search (v.get "q") (v.get "limit"))
    | "function_detail" => return some (.functionDetail id)
    | "source" => return some (.source id)
    | "file" => return some (.file (v.get "file"))
    | "file_functions" => return some (.fileFunctions (v.get "file"))
    | "neighborhood" => return some (.neighborhood id)
    | "call_chain" => return some (.callChain id)
    | "callers" => return some (.callers id)
    | "path" => return some (.path (v.get "start_function_id") (v.get "end_function_id"))
    | "aclose" | "__aexit__" => return none
    | _ => throw (.badCall "ExplorerClient._get" "got multiple values for argument 'path'")

def directRequest (a : Arguments) : Except Failure Request := do
  let v ← Signature.bind ⟨"ExplorerClient._get", [⟨"path", none⟩], true⟩ a
  let path ← Location.sentPath (← Location.ofJson (v.get "path"))
  let others := a.named.filter (·.1 != "path")
  return ⟨path, others.flatMap fun (name, value) => encoded name value⟩

def requestOf (name : String) (a : Arguments) : Except Failure (Option Request) := do
  let request? ← if name = "_get" then some <$> directRequest a
    else Option.map Call.request <$> Call.ofArguments name a
  if let some r := request? then Location.checkQuery r.params
  return request?

variable [Store.Engine]

/-- What the reply to a request means. A fault in the data, which no reply tells, is passed on. -/
def exchange (settings : Settings) (r : Http.Request) : Store.Access Json := do
  let reply ← Http.deliver settings r
  Store.Access.lift (decode reply)

/-- A call whose request cannot be written fails without being sent. -/
def ask (settings : Settings) (c : Call) : Store.Access Json := do
  Store.Access.lift (Http.Location.checkQuery c.request.params)
  exchange settings c.request

end CallAtlas.Client
