import CallAtlas.Store.Access
import CallAtlas.Store.Standard
import CallAtlas.Store.Token
import CallAtlas.Store.Traversal

/-! A small engine. It knows the queries that stores are delivered with, scans of a table, rows of
constants and temporary tables made of such a row; any other text counts as a syntax error. -/
namespace CallAtlas.Store

inductive Item
  | constant (value : Cell)
  | slot (s : Slot)
deriving DecidableEq, Inhabited

inductive Statement
  | neighborhood
  | callees
  | callers
  | paths
  /-- Ordered by some of the columns shown. -/
  | symbols (order : List String)
  /-- All rows of a relation, or those with a given value in a column. -/
  | scan (relation : String) (condition : Option (String × Slot))
  | constants (items : List (Item × String))
  /-- A temporary table of one row. -/
  | temporary (name : String) (items : List (Item × String))
  /-- Blanks and comments alone; it has no rows. -/
  | nothing
deriving DecidableEq, Inhabited

def item? : List Token → Option (Item × List Token)
  | .text s :: rest => some (.constant (.text s), rest)
  | .slot s :: rest => some (.slot s, rest)
  | tokens => (signed? tokens).map fun (cell, rest) => (.constant cell, rest)

def namedItem? (tokens : List Token) : Option (Item × String) := do
  let (item, rest) ← item? tokens
  match rest with
  | [as_, name] => if as_.isKeyword "AS" then return (item, ← name.name?) else none
  | _ => none

def items? (tokens : List Token) : Option (List (Item × String)) :=
  (Text.parts (· == .mark ',') tokens).mapM namedItem?

def temporary? : List Token → Option Statement
  | create :: temp :: table :: name :: as_ :: select :: rest => do
    if !(create.isKeyword "CREATE" && (temp.isKeyword "TEMP" || temp.isKeyword "TEMPORARY")
        && table.isKeyword "TABLE" && as_.isKeyword "AS" && select.isKeyword "SELECT") then none
    let name ← name.name?
    let items ← items? rest
    if name.toLower.startsWith "sqlite_" || (Database.repeated? (items.map (·.2))).isSome then none
    return .temporary name items
  | _ => none

def ofTokens? : List Token → Option Statement
  | [] => some .nothing
  | [select, .mark '*', source, relation] => do
    if !(select.isKeyword "SELECT" && source.isKeyword "FROM") then none
    return .scan (← relation.name?) none
  | [select, .mark '*', source, relation, condition, column, .mark '=', .slot s] => do
    if !(select.isKeyword "SELECT" && source.isKeyword "FROM" && condition.isKeyword "WHERE") then
      none
    return .scan (← relation.name?) (some (← column.name?, s))
  | select :: rest =>
    if select.isKeyword "SELECT" then (items? rest).map .constants else temporary? (select :: rest)

namespace Statement

def known : List (String × Statement) :=
  [(Standard.neighborhood, .neighborhood), (Standard.callees, .callees),
    (Standard.callers, .callers), (Standard.paths, .paths),
    (Standard.symbols, .symbols ["name", "function_id", "kind"]),
    (Sample.neighborhood, .neighborhood), (Sample.callees, .callees),
    (Sample.callers, .callers), (Sample.paths, .paths), (Sample.symbols, .symbols ["name"])]

/-- The statement of a text, and the tokens behind the semicolon that ends it. -/
def ofText (text : String) : Except Failure (Statement × List Token) :=
  match known.find? (·.1 == text) with
  | some (_, s) => pure (s, [])
  | none =>
    match Token.ofText? text with
    | none => throw (.statementUnreadable text)
    | some tokens =>
      let isEnd (t : Token) : Bool := t == .mark ';'
      match ofTokens? (tokens.takeWhile (!isEnd ·)) with
      | none => throw (.statementUnreadable text)
      | some s => pure (s, (tokens.dropWhile (!isEnd ·)).drop 1)

def slots : Statement → List Slot
  | neighborhood | callees | callers => [⟨':', "function_id"⟩]
  | paths => [⟨':', "start"⟩, ⟨':', "end"⟩]
  | symbols _ => [⟨':', "pattern"⟩]
  | scan _ condition => (condition.map (·.2)).toList
  | constants items | temporary _ items => (items.filterMap fun
    | (.slot s, _) => some s
    | _ => none).eraseDups
  | nothing => []

def reads : Statement → List String
  | neighborhood | callees | callers => ["calls", "functions"]
  | paths => ["calls"]
  | symbols _ => ["types", "functions"]
  | _ => []

/-- The columns that a delivered statement reads of a table and the mark in front of their names, in
the order in which they are looked up. -/
def columnsRead : Statement → List (String × String × List String)
  | neighborhood => [("functions", "f.", shown), ("calls", "c.", ["callee_id", "caller_id"])]
  | callees => [("calls", "c.", ["callee_id", "caller_id"]), ("functions", "f.", shown)]
  | callers => [("calls", "c.", ["caller_id", "callee_id"]), ("functions", "f.", shown)]
  | paths => [("calls", "c.", ["callee_id", "caller_id"])]
  | symbols _ => [("types", "", ["name", "file", "line", "package"]), ("functions", "", shown)]
  | _ => []
where
  shown : List String := ["function_id", "name", "file", "line", "package"]

def prepare (db : Database) (s : Statement) : Except Failure Unit := do
  s.reads.forM fun name => discard (db.table name)
  s.columnsRead.forM fun (name, mark, columns) => do
    let t ← db.table name
    columns.forM fun column => discard (Database.columnAs t (mark ++ column) column)
  match s with
  | scan relation condition => do
    let t ← db.relation relation
    match condition with
    | some (column, _) => discard (t.column column)
    | none => pure ()
  | temporary name _ => if (db.temporary? name).isSome then throw (.tableRepeated name)
  | _ => pure ()

abbrev Values := List (Slot × Cell)

def valuesOf (s : Statement) : Binding → Except Failure Values
  | .named values => s.slots.zipIdx.mapM fun (slot, i) => do
    match values.get? slot.name with
    | none => throw (.bindingAbsent slot.name)
    | some value => return (slot, ← Cell.ofParameter (i + 1) value)
  | .positional values => do
    if values.length ≠ s.slots.length then
      throw (.bindingCount s.slots.length values.length)
    (s.slots.zip values).zipIdx.mapM fun ((slot, value), i) => do
      return (slot, ← Cell.ofParameter (i + 1) value)

def valueOf (values : Values) (slot : Slot) : Cell :=
  ((values.find? (·.1 == slot)).map (·.2)).getD .null

def rowOf (values : Values) (items : List (Item × String)) : Row :=
  items.map fun
    | (.constant cell, name) => (name, cell)
    | (.slot slot, name) => (name, valueOf values slot)

def run (db : Database) (values : Values) (s : Statement) : Except Failure (List Row) :=
  let value (name : String) : Cell := valueOf values ⟨':', name⟩
  match s with
  | neighborhood => db.neighborhood (value "function_id")
  | callees => db.reach true "callee" (value "function_id")
  | callers => db.reach false "caller" (value "function_id")
  | paths => db.paths (value "start") (value "end")
  | symbols order => db.symbols order (value "pattern")
  | scan relation condition => do
    let t ← db.relation relation
    match condition with
    | none => return t.named
    | some (column, slot) => t.restrict column (valueOf values slot)
  | constants items => pure [rowOf values items]
  | temporary .. | nothing => pure []

def made? (values : Values) : Statement → Option (String × Table)
  | temporary name items =>
    let row := rowOf values items
    some (name, ⟨row.map fun (name, _) => { name }, [row.map (·.2)]⟩)
  | _ => none

/-- Reads a statement, checks what it names and that nothing follows it, binds the values, and only
then runs it. -/
def execute (db : Database) (text : String) (binding : Binding) :
    Except Failure (List Row × Option (String × Table)) := do
  let (s, more) ← ofText text
  s.prepare db
  if !more.isEmpty then throw .severalStatements
  let values ← s.valuesOf binding
  return (← s.run db values, s.made? values)

/-- A connection is known by its temporary tables. -/
instance engine : Engine where
  Connection := List (String × Table)
  opened := []
  seen made db := { db with temporary := made ++ db.temporary }
  seen_opened _ := rfl
  execute made db text binding :=
    match execute { db with temporary := made ++ db.temporary } text binding with
    | .ok (rows, table?) => (.ok rows, made ++ table?.toList)
    | .error e => (.error e, made)

end Statement
end CallAtlas.Store
