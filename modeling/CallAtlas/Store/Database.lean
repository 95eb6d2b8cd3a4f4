import CallAtlas.Store.Table

namespace CallAtlas.Store

structure Database where
  tables : List (String × Table)
  hasDetailView : Bool := true
  /-- The tables of one connection. They hide what else has their names. -/
  temporary : List (String × Table) := []
deriving Inhabited

private def textual (name : String) : Column := ⟨name, .textual, false, false⟩
private def integral (name : String) : Column := ⟨name, .integral, false, false⟩
private def required (name : String) : Column := ⟨name, .textual, true, false⟩
private def key (name : String) : Column := ⟨name, .textual, false, true⟩

def standardTables : List (String × Table) :=
  [("functions", ⟨[key "function_id", required "name", textual "file", integral "line",
      integral "end_line", textual "package", textual "parent_function"], []⟩),
    ("types", ⟨[required "name", textual "file", integral "line", textual "package"], []⟩),
    ("calls", ⟨[required "caller_id", required "callee_id"], []⟩),
    ("sources", ⟨[key "file", textual "package", textual "content"], []⟩),
    ("queries", ⟨[key "name", textual "description", textual "sql"], []⟩)]

def detailView : String := "dashboard_function_detail"

def functionColumns : List String :=
  ["function_id", "name", "file", "line", "end_line", "package", "parent_function"]

namespace Database

def bare : Database where
  tables := []
  hasDetailView := false

def named? (db : Database) (name : String) : Option (String × Table) :=
  db.tables.find? (sameName ·.1 name)

def temporary? (db : Database) (name : String) : Option (String × Table) :=
  db.temporary.find? (sameName ·.1 name)

def table? (db : Database) (name : String) : Option Table :=
  ((db.temporary? name).or (db.named? name)).map (·.2)

def table (db : Database) (name : String) : Except Failure Table :=
  match db.table? name with
  | some t => pure t
  | none => throw (.noSuchTable name)

def modifyTable (db : Database) (name : String) (f : String → Table → Except Failure Table) :
    Except Failure Database :=
  match db.named? name with
  | none => throw (.noSuchTable name)
  | some (known, t) => do
    let changed ← f known t
    return { db with tables := db.tables.map fun (n, t) => if n = known then (n, changed) else (n, t) }

def cellsOf (values : List Json) : Except Failure (List Cell) :=
  values.zipIdx.mapM fun (value, i) => Cell.ofParameter (i + 1) value

def insert (db : Database) (name : String) (values : List Json) : Except Failure Database :=
  db.modifyTable name fun known t => do
    if t.columns.length < values.length then
      throw (.rowTooLong name t.columns.length values.length)
    t.insert known (← cellsOf values)

def insertAll (db : Database) (name : String) (rows : List Json) : Except Failure Database :=
  rows.foldlM (fun db row => db.insert name row.items) db

def repeated? : List String → Option String
  | [] => none
  | name :: names => (names.find? (sameName name)).orElse fun _ => repeated? names

def create (db : Database) (name : String) (columns : List String) : Except Failure Database :=
  if (db.named? name).isSome then throw (.tableRepeated name)
  else
    match repeated? columns with
    | some column => throw (.columnRepeated column)
    | none =>
      pure { db with tables := db.tables ++ [(name, { columns := columns.map fun n => { name := n } })] }

def count (values : List Cell) (id : Cell) : Cell :=
  .int (values.countP (Cell.same · id))

def columnAs (t : Table) (shown name : String) : Except Failure Column :=
  match t.column name with
  | .ok c => pure c
  | .error _ => throw (.noSuchColumn shown)

def details (functions calls : Table) : Except Failure Table := do
  let columns ← functionColumns.mapM fun name => columnAs functions ("f." ++ name) name
  ["callee_id", "caller_id"].forM fun name => discard (columnAs calls ("c." ++ name) name)
  let called := calls.named.map (Row.get · "callee_id")
  let calling := calls.named.map (Row.get · "caller_id")
  return {
    columns := columns ++ [⟨"caller_count", .untyped, false, false⟩, ⟨"callee_count", .untyped, false, false⟩]
    rows := functions.named.map fun row =>
      let id := Row.get row "function_id"
      functionColumns.map (Row.get row)
        ++ [count called id, count calling id] }

/-- A table, or the view of details. The view does not see temporary tables, and what it misses is
named with its schema. -/
def relation (db : Database) (name : String) : Except Failure Table :=
  match db.table? name with
  | some t => pure t
  | none =>
    if sameName name detailView && db.hasDetailView then
      match db.named? "functions", db.named? "calls" with
      | none, _ => throw (.noSuchTable "main.functions")
      | _, none => throw (.noSuchTable "main.calls")
      | some (_, functions), some (_, calls) => details functions calls
    else throw (.noSuchTable name)

def rowsOf (db : Database) (name : String) : List Row :=
  ((db.table? name).map Table.named).getD []

end Database
end CallAtlas.Store
