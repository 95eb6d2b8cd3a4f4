import CallAtlas.Graph.Assembly
import CallAtlas.Limit
import CallAtlas.Resolve
import CallAtlas.Settings
import CallAtlas.Store.Files
import CallAtlas.Store.Registry

namespace CallAtlas.Service

open Store

variable [Engine]

/-- The registered queries, with their texts if `withText` says so in whatever way. -/
def listQueries (withText : Json) : Access Json := do
  let queries := (← Registry.list !withText.isEmpty).map Listing.toJson
  return .object [("count", .int queries.length), ("includeSql", withText),
    ("queries", .list queries)]

private def isFunction (row : Fields) : Bool :=
  (row.get "kind").text? == some "function"

def search (q limit : Json) : Access Json := do
  let query ← Access.lift (requireParam q "q")
  let pattern := "%" ++ query ++ "%"
  let rows ← Registry.execute (.text "symbol_search") (.object [("pattern", .text pattern)])
  let functions := ((rows.map Row.toFields).filter isFunction).take (Limit.ofJson limit)
  return .object [("query", .text query), ("count", .int functions.length),
    ("functions", .list (functions.map Json.object))]

def functionDetail (functionId : Json) : Access Fields := do
  let id ← Access.lift (requireParam functionId "functionId")
  match ← Functions.detail (.text id) with
  | some detail => return detail
  | none => throw (.functionNotFound id)

def needed (row : Fields) (name : String) : Access Json :=
  match row.get? name with
  | some value => pure value
  | none => throw (.columnMissing name)

def source (functionId : Json) : Access Json := do
  let detail ← functionDetail functionId
  let path ← needed detail "file"
  match ← Sources.get path with
  | none => throw (.sourceNotFound path.shown)
  | some file =>
    let id ← needed detail "function_id"
    let name ← needed detail "name"
    let package ← needed detail "package"
    let line ← needed detail "line"
    let endLine ← needed detail "end_line"
    return .object [("functionId", id), ("name", name), ("file", path), ("package", package),
      ("line", line), ("endLine", endLine), ("content", file.content)]

/-- The path as it was asked for, and the stored one that it stands for, which a column without a type
may hold as a number. -/
def resolveFile (settings : Settings) (file : Json) : Access (String × Json) := do
  let requested ← Access.lift (requireParam file "file")
  let stored? ← Resolve.resolve Json.text (fun f => Sources.contains (.text f))
    (fun suffix cap => Sources.withSuffix (.text suffix) (.int cap))
    settings.minSuffixLength requested
  match stored? with
  | some stored => return (requested, stored)
  | none => throw (.sourceNotFound requested)

def file (settings : Settings) (path : Json) : Access Json := do
  let (requested, stored) ← resolveFile settings path
  match ← Sources.get stored with
  | none => throw (.sourceNotFound requested)
  | some found =>
    return .object [("fileRequested", .text requested), ("fileResolved", stored),
      ("package", found.package), ("content", found.content)]

def fileFunctions (settings : Settings) (path : Json) : Access Json := do
  let (requested, stored) ← resolveFile settings path
  let functions ← Functions.inFile stored
  return .object [("fileRequested", .text requested), ("fileResolved", stored),
    ("count", .int functions.length), ("functions", .list (functions.map Json.object))]

def browsePath : Json → Except Failure String
  | .text path => pure (Path.normalizeBrowse path)
  | value => if value.isEmpty then pure "" else throw (.lacksOperation value.kindName "strip")

def browser : Access Browser := do
  match (← get).browser with
  | some b => return b
  | none =>
    let files ← (← Sources.list).mapM fun (file, package) => do
      discard (Access.lift (browsePath file))
      return (file.text?.getD "", package)
    let b := Browser.ofFiles files
    modify fun c => { c with browser := some b }
    return b

def listDirectory (path : Json) : Access Json := do
  let directory ← Access.lift (browsePath path)
  let b ← browser
  if !b.has directory then throw (.directoryNotFound directory)
  let entries := (b.list directory).map Entry.toJson
  return .object [("path", .text directory), ("count", .int entries.length),
    ("entries", .list entries)]

structure Reached where
  functionId : String
  nodes : List Fields

namespace Reached

def toJson (r : Reached) : Json :=
  .object [("functionId", .text r.functionId), ("count", .int r.nodes.length),
    ("nodes", .list (r.nodes.map Json.object))]

def toNodes (r : Reached) (otherwise : Option Direction) : Except Failure (List TraversalNode) :=
  r.nodes.mapM (TraversalNode.ofRow otherwise)

end Reached

def traverse (query : String) (functionId : Json) : Access Reached := do
  let id ← Access.lift (requireParam functionId "functionId")
  let rows ← Registry.execute (.text query) (.object [("function_id", .text id)])
  return ⟨id, rows.map Row.toFields⟩

def neighborhood (functionId : Json) : Access Reached :=
  traverse "function_neighborhood" functionId

def callChain (functionId : Json) : Access Reached :=
  traverse "call_chain" functionId

def callers (functionId : Json) : Access Reached :=
  traverse "callers_of" functionId

def paths (startId endId : Json) : Access Json := do
  let start ← Access.lift (requireParam startId "startFunctionId")
  let goal ← Access.lift (requireParam endId "endFunctionId")
  let rows ← Registry.execute (.text "call_chain_pathfinder")
    (.object [("start", .text start), ("end", .text goal)])
  let found := rows.map Row.toFields
  return .object [("startFunctionId", .text start), ("endFunctionId", .text goal),
    ("count", .int found.length), ("paths", .list (found.map Json.object))]

def budgetOf (settings : Settings) (budget : Json) : Graph.Budget :=
  if budget.isNull then .whole settings.nodeBudget else .ofJson budget

def explore (settings : Settings) (functionId budget : Json) : Access Graph := do
  let focal := FunctionNode.ofRow (← functionDetail functionId)
  let id := Json.text focal.id
  let neighbors ← Access.lift ((← neighborhood id).toNodes none)
  let callees ← Access.lift ((← callChain id).toNodes (some .callee))
  let callers ← Access.lift ((← callers id).toNodes (some .caller))
  let material : Graph.Material := { focal, neighbors, callees, callers }
  Access.lift (Graph.assemble? settings.options (budgetOf settings budget) material)

end CallAtlas.Service
