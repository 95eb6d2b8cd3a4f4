import CallAtlas.Browser
import CallAtlas.Query.Compiled
import CallAtlas.Store.Database

/-! Operations on a store: they read what lies behind it, may fail, and fill caches on the way. -/
namespace CallAtlas.Store

/-- What runs the texts of stored queries. -/
class Engine where
  /-- All that answers may depend on besides what is stored and the values that are bound: temporary
  tables, settings, the state that random numbers are drawn from, the time of day. -/
  Connection : Type
  opened : Connection
  /-- The tables as they are seen through a connection. -/
  seen : Connection → Database → Database
  seen_opened : ∀ db, seen opened db = db
  /-- Runs a text over stored tables; the connection may come out changed even if that fails. -/
  execute : Connection → Database → String → Binding → Except Failure (List Row) × Connection

attribute [simp] Engine.seen_opened

inductive Backing
  | unconfigured
  | missing
  | unreadable (reason : String)
  /-- A path that is too long to be looked up. -/
  | unnamable
  /-- A file that can be opened and is no database. -/
  | garbage
  | tables (db : Database)
deriving Inhabited

structure Source where
  path : String
  backing : Backing
deriving Inhabited

namespace Source

def isConfigured (s : Source) : Bool :=
  match s.backing with
  | .unconfigured => false
  | _ => true

end Source

variable [Engine]

structure Cache where
  connected : Bool := false
  /-- Counts only while the store is open. -/
  connection : Engine.Connection := Engine.opened
  compiled : List Query := []
  browser : Option Browser := none

instance : Inhabited Cache := ⟨{}⟩

/-- A failed operation keeps what it has put into the cache. -/
abbrev Access := ReaderT Source (ExceptT Failure (StateM Cache))

namespace Access

def run (operation : Access α) (source : Source) (cache : Cache) : Except Failure α × Cache :=
  Id.run (StateT.run (ExceptT.run (ReaderT.run operation source)) cache)

def lift : Except Failure α → Access α
  | .ok a => pure a
  | .error e => throw e

def connect : Access Unit := do
  if (← get).connected then return
  let source ← read
  match source.backing with
  | .unconfigured => throw .storeNotConfigured
  | .missing => throw (.storeAbsent source.path)
  | .unreadable reason => throw (.storeUnreadable source.path reason)
  | .unnamable => throw (.pathTooLong source.path)
  | .garbage | .tables _ => modify fun c =>
    { c with connected := true, connection := Engine.opened }

def stored : Access Database := do
  connect
  match (← read).backing with
  | .tables db => return db
  | _ => throw .notDatabase

def database : Access Database := do
  let db ← stored
  return Engine.seen (← get).connection db

def execute (text : String) (binding : Binding) : Access (List Row) := do
  let db ← stored
  let (result, connection) := Engine.execute (← get).connection db text binding
  modify fun c => { c with connection }
  lift result

def close : Access Unit :=
  modify fun c => { c with connected := false, connection := Engine.opened }

end Access

inductive Health
  | answers (tables : Nat)
  | fails (reason : String)
deriving DecidableEq, Inhabited

namespace Health

def isWell : Health → Bool
  | answers _ => true
  | fails _ => false

def fields : Health → Fields
  | answers tables => [("ok", .bool true), ("tableCount", .int tables)]
  | fails reason => [("ok", .bool false), ("reason", .text reason)]

end Health

namespace Access

/-- Never fails; a store that is not configured is not opened either. -/
def ping : Access Health := do
  if (← read).isConfigured then
    try
      return .answers (← stored).tables.length
    catch e => return .fails e.message
  else return .fails "SQLITE_PATH is not configured"

end Access

def lookup (relation : String) (needed : List String) (column : String) (value : Json) :
    Access (List Row) := do
  let db ← Access.database
  Access.lift do
    let t ← db.relation relation
    t.require needed
    t.require [column]
    t.restrict column (← Cell.ofParameter 1 value)

end CallAtlas.Store
