import CallAtlas.Json.Reading
import CallAtlas.Store.Access
import CallAtlas.Store.Statement

/-! Stores written down as JSON: rows for the tables, and what the store has besides them or lacks
of them. -/
namespace CallAtlas.Store
namespace Database

/-- The standard tables that a document does not drop, and the view unless it is dropped or a table
takes its place. -/
def blank (fields : Fields) : Database :=
  let dropped := (fields.get "drop").items.filterMap Json.text?
  let own := (fields.get "tables").fields?.getD []
  { tables := standardTables.filter fun (name, _) => !dropped.contains name
    hasDetailView := !dropped.contains detailView && !own.has detailView }

/-- Rows for a table that was dropped are passed over. -/
def fill (db : Database) (name : String) (rows : List Json) : Except Failure Database :=
  if db.tables.any (·.1 == name) then db.insertAll name rows else pure db

def queryRows (fields : Fields) : List Json :=
  let standard := Standard.queries.map fun (name, purpose, text) =>
    Json.list [.text name, .text purpose, .text text]
  let first := match fields.get? "queries" with
    | some (.list rows) => rows
    | _ => standard
  first ++ (fields.get "more_queries").items

def addOwn (db : Database) (name : String) (table : Fields) : Except Failure Database := do
  let created ← db.create name ((table.get "columns").items.filterMap Json.text?)
  created.insertAll name (table.get "rows").items

/-- The store of a document. The rows in `known` stand before those of the document. -/
def ofFields (known : List (String × List Json)) (fields : Fields) : Except Failure Database := do
  let rows (name : String) := (name, (fields.get name).items)
  let given := known ++ ["functions", "types", "calls", "sources"].map rows
  let filled ← (given ++ [("queries", queryRows fields)]).foldlM
    (fun db (name, rows) => db.fill name rows) (blank fields)
  ((fields.get "tables").fields?.getD []).foldlM
    (fun db (name, table) => db.addOwn name (table.fields?.getD [])) filled

end Database

def Backing.ofContent (content : String) : Backing :=
  match Json.read? content with
  | some (.object fields) =>
    match Database.ofFields [] fields with
    | .ok db => .tables db
    | .error _ => .garbage
  | _ => .garbage

end CallAtlas.Store
