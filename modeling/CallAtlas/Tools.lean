import CallAtlas.Json.Operations
import CallAtlas.Json.Printing
import CallAtlas.Service

namespace CallAtlas

structure Tool where
  name : String
  description : String
  input : Json

namespace Tool

def toJson (t : Tool) : Json :=
  .object [("name", .text t.name), ("description", .text t.description), ("inputSchema", t.input)]

private def parameter (name kind description : String) (more : Fields) : String × Json :=
  (name, .object ([("type", .text kind), ("description", .text description)] ++ more))

private def parameters (all : Fields) (required : List String) : Json :=
  .object ([("type", .text "object"), ("properties", .object all)]
    ++ if required.isEmpty then [] else [("required", .list (required.map Json.text))])

def search : Tool where
  name := "callgraph_search"
  description := "Search for functions by name (partial match). "
    ++ "Returns function ids usable by the other tools."
  input := parameters
    [parameter "query" "string" "Search query (partial name match)" [],
      parameter "limit" "integer" "Maximum results, 1-50 (default: 25)"
        [("default", .int Limit.standard)]]
    ["query"]

def explore : Tool where
  name := "callgraph_explore"
  description := "Build the exploration graph around a function: its direct callers "
    ++ "and callees plus the most relevant transitive ones, bounded by a "
    ++ "node budget. Returns nodes with relation tags and directed edges."
  input := parameters
    [parameter "function_id" "string" "Id of the focal function" [],
      parameter "node_budget" "integer" "Maximum number of nodes to include" []]
    ["function_id"]

def path : Tool where
  name := "callgraph_path"
  description := "Find call paths from one function to another."
  input := parameters
    [parameter "start_function_id" "string" "Id of the calling function" [],
      parameter "end_function_id" "string" "Id of the called function" []]
    ["start_function_id", "end_function_id"]

def queries : Tool where
  name := "callgraph_queries"
  description := "List the named queries registered in the graph store."
  input := parameters [] []

def all : List Tool :=
  [search, explore, path, queries]

private def graphFields (g : Graph) : Fields :=
  (g.toJson.fields?).getD []

variable [Store.Engine]

/-- A name that no tool has is told in the result; it is no failure. Arguments that are not looked
at may be anything. -/
def handle (settings : Settings) (name arguments : Json) : Store.Access Json := do
  let asks (t : Tool) : Bool := name.text? == some t.name
  if !all.any asks then
    return .object [("error", .text ("Unknown tool: " ++ name.shown))]
  else if asks queries then
    Service.listQueries (.bool false)
  else
    let given ← Store.Access.lift arguments.asFields
    if asks search then
      Service.search (given.get "query") (given.get "limit")
    else if asks path then
      Service.paths (given.get "start_function_id") (given.get "end_function_id")
    else
      let id := given.get "function_id"
      let g ← Service.explore settings id (given.get "node_budget")
      return .object (("function_id", id) :: graphFields g)

def call (settings : Settings) (name arguments : Json) : Store.Access String := do
  try
    return (← handle settings name arguments).indented
  catch e =>
    match e.class? with
    | some _ => return (Json.object [("error", .text e.message)]).indented
    | none => throw e

end Tool
end CallAtlas
