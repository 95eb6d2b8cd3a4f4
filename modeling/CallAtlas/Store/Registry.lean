import CallAtlas.Json.Operations
import CallAtlas.Sorting
import CallAtlas.Store.Access

namespace CallAtlas.Store

structure Listing where
  name : Json
  description : Json
  text : Json := .null
deriving Inhabited

namespace Listing

def toJson (l : Listing) : Json :=
  let text := if l.text.isNull then [] else [("sql", l.text)]
  .object ([("name", l.name), ("description", l.description)] ++ text)

end Listing

namespace Registry

variable [Engine]

/-- The queries in the order of their names, with their texts only if asked for. A column that is
not named `sql` to the letter shows no texts. -/
def list (withText : Bool) : Access (List Listing) := do
  let db ← Access.database
  Access.lift do
    let t ← db.relation "queries"
    t.require (["name", "description"] ++ if withText then ["sql"] else [])
    let showsText := withText && t.columns.any (·.name == "sql")
    return (sortBy ["name"] t.named).map fun row => {
      name := (Row.get row "name").toJson
      description := (Row.get row "description").toJson.orElse (.text "")
      text := if showsText then (Row.get row "sql").toJson else .null }

/-- The text stored under a name; a query without text counts as unknown. -/
def textOf (name : Json) : Access String := do
  let rows ← lookup "queries" ["sql"] "name" name
  let stored := ((rows.head?.map fun row => (Row.get row "sql").toJson).getD .null)
  if stored.isEmpty then throw (.queryUnknown name.shown)
  match stored with
  | .text text => return text
  | value => throw (.notQueryText value.kindName)

def get (name : Json) : Access Query := do
  let name ← Access.lift name.asKey
  match (← MonadState.get).compiled.find? (·.name.same name) with
  | some q => return q
  | none =>
    let q := Query.compile name (← textOf name)
    modify fun c => { c with compiled := c.compiled ++ [q] }
    return q

/-- Only texts name queries that are there. -/
def contains (name : Json) : Access Bool := do
  if name.text?.isNone then return false
  try
    discard (get name)
    return true
  catch
    | .queryUnknown _ => return false
    | e => throw e

def compiledNames : Access (List Json) := do
  let names := (← MonadState.get).compiled.map (·.name)
  Access.lift (Sorting.sort Json.before? names)

def execute (name : Json) (params : Json) : Access (List Row) := do
  let q ← get name
  Access.connect
  let binding ← Access.lift (q.bind params)
  Access.execute q.text binding

end Registry
end CallAtlas.Store
