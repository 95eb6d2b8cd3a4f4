import CallAtlas.Http.Endpoint

namespace CallAtlas.Client

open Http

inductive Call
  | queries (includeSql : Bool)
  | search (q limit : Json)
  | functionDetail (functionId : Json)
  | source (functionId : Json)
  | file (file : Json)
  | fileFunctions (file : Json)
  | neighborhood (functionId : Json)
  | callChain (functionId : Json)
  | callers (functionId : Json)
  | path (startId endId : Json)
deriving Inhabited

def written : Json → String
  | .null => ""
  | .bool b => if b then "true" else "false"
  | v => v.shown

/-- A parameter's value, one text per value; null is not sent. -/
def encoded (name : String) : Json → List (String × String)
  | .null => []
  | .list items => items.map fun item => (name, written item)
  | v => [(name, written v)]

namespace Call

def endpoint : Call → Endpoint
  | queries _ => .queries
  | search .. => .search
  | functionDetail _ => .functionDetail
  | source _ => .source
  | file _ => .file
  | fileFunctions _ => .fileFunctions
  | neighborhood _ => .neighborhood
  | callChain _ => .callChain
  | callers _ => .callers
  | path .. => .path

def values : Call → Fields
  | queries includeSql => [("includeSql", if includeSql then .text "true" else .null)]
  | search q limit => [("q", q), ("limit", limit)]
  | functionDetail id | source id | neighborhood id | callChain id | callers id =>
    [("functionId", id)]
  | file name | fileFunctions name => [("file", name)]
  | path start goal => [("startFunctionId", start), ("endFunctionId", goal)]

def request (c : Call) : Request :=
  ⟨c.endpoint.location, c.values.flatMap fun (name, value) => encoded name value⟩

end Call

end CallAtlas.Client
