import CallAtlas.Store.Access

namespace CallAtlas.Store

namespace Database

def removeQuery (db : Database) (name : Json) : Except Failure Database :=
  db.modifyTable "queries" fun _ t => do
    let c ← t.column "name"
    let value := c.affinity.adapt (← Cell.ofParameter 1 name)
    let i := t.columns.findIdx (· == c)
    return { t with rows := t.rows.filter fun cells => !((cells[i]?).getD .null).same value }

def replaceQuery (db : Database) (name text : Json) : Except Failure Database :=
  db.modifyTable "queries" fun _ t => do
    let target ← t.column "sql"
    let c ← t.column "name"
    let text := target.affinity.adapt (← Cell.ofParameter 1 text)
    let value := c.affinity.adapt (← Cell.ofParameter 2 name)
    let i := t.columns.findIdx (· == c)
    let j := t.columns.findIdx (· == target)
    return { t with rows := t.rows.map fun cells =>
      if ((cells[i]?).getD .null).same value then cells.set j text else cells }

end Database

namespace Backing

/-- A change to what lies behind a path. Where nothing is, an attempt leaves a store without
tables. -/
def change (f : Database → Except Failure Database) : Backing → Except Failure Unit × Backing
  | .tables db =>
    match f db with
    | .ok changed => (.ok (), .tables changed)
    | .error e => (.error e, .tables db)
  | .missing =>
    match f .bare with
    | .ok changed => (.ok (), .tables changed)
    | .error e => (.error e, .tables .bare)
  | .unconfigured => (discard (f .bare), .unconfigured)
  | .unreadable reason => (.error .cannotOpen, .unreadable reason)
  | .unnamable => (.error .cannotOpen, .unnamable)
  | .garbage => (.error .notDatabase, .garbage)

end Backing
end CallAtlas.Store
