import CallAtlas.Store.Cell

namespace CallAtlas.Store

structure Column where
  name : String
  affinity : Affinity := .untyped
  /-- Absent values are refused. -/
  isRequired : Bool := false
  /-- No value occurs in two rows; absent values may. -/
  isKey : Bool := false
deriving DecidableEq, Inhabited

structure Table where
  columns : List Column
  rows : List (List Cell) := []
deriving Inhabited

namespace Table

def named (t : Table) : List Row :=
  t.rows.map fun cells => (t.columns.map (·.name)).zip cells

def valuesAt (t : Table) (i : Nat) : List Cell :=
  t.rows.map fun cells => (cells[i]?).getD .null

/-- Refuses a row with an absent value where there must be one, and then a row with a value that is
a key already. -/
def check (t : Table) (name : String) (cells : List Cell) : Except Failure Unit := do
  let entries := t.columns.zip cells
  match entries.find? fun (c, cell) => c.isRequired && cell == .null with
  | some (c, _) => throw (.valueAbsent name c.name)
  | none =>
    match entries.zipIdx.find? fun ((c, cell), i) => c.isKey && (t.valuesAt i).any cell.same with
    | some ((c, _), _) => throw (.keyRepeated name c.name)
    | none => pure ()

/-- A short row is filled up with absent values. -/
def insert (t : Table) (name : String) (cells : List Cell) : Except Failure Table := do
  let given := cells ++ List.replicate (t.columns.length - cells.length) .null
  let row := t.columns.zipWith (fun c cell => c.affinity.adapt cell) given
  t.check name row
  return { t with rows := t.rows ++ [row] }

def column (t : Table) (name : String) : Except Failure Column :=
  match t.columns.find? (sameName ·.name name) with
  | some c => pure c
  | none => throw (.noSuchColumn name)

def restrict (t : Table) (name : String) (value : Cell) : Except Failure (List Row) := do
  let c ← t.column name
  return t.named.filter fun row => (Row.get row name).same (c.affinity.adapt value)

def require (t : Table) (names : List String) : Except Failure Unit :=
  names.forM fun name => discard (t.column name)

end Table

def orderedBy : List String → Row → Row → Bool
  | [], _, _ => true
  | name :: names, a, b =>
    let x := Row.get a name
    let y := Row.get b name
    if x.atMost y then !y.atMost x || orderedBy names a b else false

def sortBy (names : List String) (rows : List Row) : List Row :=
  rows.mergeSort (orderedBy names)

def pick (names : List String) (row : Row) : Row :=
  names.map fun name => (row.find? fun field => sameName field.1 name).getD (name, .null)

end CallAtlas.Store
