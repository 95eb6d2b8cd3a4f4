import CallAtlas.Store.Database
import CallAtlas.Store.Pattern

/-! Following the recorded calls: the functions within a few calls of one, and the call paths
between two. -/
namespace CallAtlas.Store

/-- No traversal follows more calls in a row. -/
def maxDepth : Nat := 6

/-- Who calls whom, with what the columns make of the ids that they are compared with. -/
structure Calls where
  callers : Affinity
  callees : Affinity
  pairs : List (Cell × Cell)
deriving Inhabited

namespace Calls

def ofTable (t : Table) : Except Failure Calls := do
  return {
    callers := (← t.column "caller_id").affinity
    callees := (← t.column "callee_id").affinity
    pairs := t.named.map fun row => (Row.get row "caller_id", Row.get row "callee_id") }

def adapt (calls : Calls) (forward : Bool) (id : Cell) : Cell :=
  (if forward then calls.callers else calls.callees).adapt id

def step (calls : Calls) (forward : Bool) (id : Cell) : List Cell :=
  if forward then (calls.pairs.filter (·.1.same id)).map (·.2)
  else (calls.pairs.filter (·.2.same id)).map (·.1)

def layers (calls : Calls) (forward : Bool) : Nat → List Cell → List (List Cell)
  | 0, _ => []
  | n + 1, ids =>
    let next := (ids.flatMap (calls.step forward)).eraseDups
    next :: layers calls forward n next

structure Walk where
  id : Cell
  text : Cell
  depth : Nat
deriving Inhabited

/-- The text of a path is no part of it yet, and both are there. -/
def Walk.isFree (w : Walk) (callee : Cell) : Bool :=
  match w.text.asText?, callee.asText? with
  | some path, some id => !occursIn id.toList path.toList
  | _, _ => false

def Walk.extend (w : Walk) (callee : Cell) : Walk :=
  let text := w.text.asText?.getD "" ++ " -> " ++ callee.asText?.getD ""
  ⟨callee, .text text, w.depth + 1⟩

/-- A walk and all that continue it by at most `n` more calls. A walk does not go on to a function
whose id its text already holds. -/
def walks (calls : Calls) : Nat → Walk → List Walk
  | 0, w => [w]
  | n + 1, w =>
    let next := (calls.step true (calls.adapt true w.id)).filter w.isFree
    w :: next.flatMap fun callee => walks calls n (w.extend callee)

end Calls

def depthIn (id : Cell) (depth : Nat) : List (List Cell) → Option Nat
  | [] => none
  | ids :: rest => if ids.any id.same then some depth else depthIn id (depth + 1) rest

private def found (function : Row) (direction : String) (depth : Nat) : Row :=
  [("id", Row.get function "function_id")] ++ pick ["name", "file", "line", "package"] function
    ++ [("direction", .text direction), ("depth", .int depth)]

def firstOfEach (column : String) (rows : List Row) : List Row :=
  rows.foldl (fun kept row =>
    if kept.any fun k => (Row.get k column).same (Row.get row column) then kept
    else kept ++ [row]) []

namespace Database

def calls (db : Database) : Except Failure Calls := do
  Calls.ofTable (← db.table "calls")

def reach (db : Database) (forward : Bool) (direction : String) (start : Cell) :
    Except Failure (List Row) := do
  let calls ← db.calls
  let near := calls.layers forward maxDepth [calls.adapt forward start]
  let reached := (db.rowsOf "functions").filterMap fun row =>
    (depthIn (Row.get row "function_id") 1 near).map fun depth => found row direction depth
  return sortBy ["depth", "name", "id"] (firstOfEach "id" reached)

/-- The functions with an id; several of them are in the order of what is shown of them, one column
after the other as the table has them. -/
private def withId (functions : Table) (id : Cell) : List Row :=
  let shown := (functions.columns.map (·.name)).filter fun name =>
    ["name", "file", "line", "package"].any (sameName name)
  sortBy shown (functions.named.filter fun row => (Row.get row "function_id").same id)

def neighborhood (db : Database) (id : Cell) : Except Failure (List Row) := do
  let calls ← db.calls
  let functions ← db.table "functions"
  let side (forward : Bool) (direction : String) : List Row :=
    (calls.step forward (calls.adapt forward id)).flatMap fun other =>
      (withId functions other).map fun row => found row direction 1
  return side true "callee" ++ side false "caller"

def paths (db : Database) (start goal : Cell) : Except Failure (List Row) := do
  let calls ← db.calls
  let ends := (calls.walks maxDepth ⟨start, start, 0⟩).filter (·.id.same goal)
  return sortBy ["depth", "path"] (ends.map fun w =>
    [("path", w.text), ("depth", .int w.depth)])

def symbols (db : Database) (order : List String) (pattern : Cell) :
    Except Failure (List Row) := do
  let functions ← db.table "functions"
  let types ← db.table "types"
  match pattern.asText? with
  | none => return []
  | some p =>
    if mostPatternBytes < p.utf8ByteSize && !(functions.rows ++ types.rows).isEmpty then
      throw .patternTooLong
    let isHit (row : Row) : Bool := (Row.get row "name").asText?.any fun name =>
      matchesPattern (upToNull p.toList) (upToNull name.toList)
    let shared := ["name", "file", "line", "package"]
    let names := (← (("function_id" :: shared).mapM functions.column)).map (·.name) ++ ["kind"]
    let symbol (id : Cell) (row : Row) (kind : String) : Row :=
      names.zip (id :: shared.map (Row.get row) ++ [.text kind])
    let ofFunction (row : Row) : Row := symbol (Row.get row "function_id") row "function"
    let ofType (row : Row) : Row :=
      symbol (.text ("type:" ++ (Row.get row "name").asText?.getD "")) row "type"
    return sortBy order
      ((functions.named.filter isHit).map ofFunction ++ (types.named.filter isHit).map ofType)

end Database
end CallAtlas.Store
