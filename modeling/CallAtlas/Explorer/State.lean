import CallAtlas.Client.Call
import CallAtlas.Graph.Assembly

/-! The state of an explorer: what it shows, and the loads that are or were under way. Every load
carries the number of its generation, and only the latest generation may change what is shown. -/
namespace CallAtlas.Explorer

open Http (Endpoint)

inductive Progress
  | pending
  | answered (reply : Except Failure Json)
  | cancelled
deriving Inhabited

structure Fetch where
  call : Client.Call
  progress : Progress := .pending

namespace Fetch

def endpoint (f : Fetch) : Endpoint :=
  f.call.endpoint

def isPending (f : Fetch) : Bool :=
  match f.progress with
  | .pending => true
  | _ => false

def isCancelled (f : Fetch) : Bool :=
  match f.progress with
  | .cancelled => true
  | _ => false

def reply? (f : Fetch) : Option (Except Failure Json) :=
  match f.progress with
  | .answered r => some r
  | _ => none

def cancel (f : Fetch) : Fetch :=
  if f.isPending then { f with progress := .cancelled } else f

end Fetch

inductive Stage
  /-- The details of a function that is to be explored. -/
  | detail (generation : Nat)
  | graph (generation : Nat) (focal : FunctionNode)
  | file (generation : Nat) (path : Json)
deriving Inhabited

inductive Outcome
  | pending
  | cancelled
  | failed (failure : Failure)
  /-- A later load was started in the meantime. -/
  | stale
  | published
deriving Inhabited

structure Task where
  stage : Stage
  fetches : List Fetch
  outcome : Outcome := .pending
deriving Inhabited

namespace Task

def isPending (t : Task) : Bool :=
  match t.outcome with
  | .pending => true
  | _ => false

def finish (t : Task) (outcome : Outcome) : Task :=
  { t with outcome, fetches := t.fetches.map Fetch.cancel }

def generation (t : Task) : Nat :=
  match t.stage with
  | .detail g => g
  | .graph g _ => g
  | .file g _ => g

def payload (t : Task) (e : Endpoint) : Json :=
  match (t.fetches.find? (·.endpoint == e)).bind Fetch.reply? with
  | some (.ok v) => v
  | _ => .null

end Task

structure LoadedFile where
  requested : Json
  resolved : Json
  package : Json
  content : Json
  functions : List Json
deriving Inhabited

namespace LoadedFile

def lineCount (f : LoadedFile) : Except Failure Nat :=
  match f.content with
  | .text s => pure ((s.toList.filter (· == '\n')).length + 1)
  | value => throw (.lacksOperation value.kindName "split")

def toJson (f : LoadedFile) : Except Failure Json := do
  return .object [("file_requested", f.requested), ("file_resolved", f.resolved),
    ("package", f.package), ("content", f.content), ("functions", .list f.functions),
    ("line_count", .int (← f.lineCount))]

end LoadedFile

/-- A graph on display, with its focal function and the generation that it comes from. -/
structure Display where
  generation : Nat
  focal : FunctionNode
  graph : Graph
deriving Inhabited

structure FileDisplay where
  generation : Nat
  file : LoadedFile
deriving Inhabited

structure Setup where
  budget : Graph.Budget := .whole 60
  options : Graph.Options := {}
deriving Inhabited

structure State where
  generation : Nat := 0
  fileGeneration : Nat := 0
  display : Option Display := none
  file : Option FileDisplay := none
  tasks : List Task := []
deriving Inhabited

namespace State

def task? (s : State) (i : Nat) : Option Task :=
  s.tasks[i]?

def replace (s : State) (i : Nat) (t : Task) : State :=
  { s with tasks := s.tasks.set i t }

def shows (s : State) (t : Task) : Bool :=
  match t.stage with
  | .file g _ => s.file.any (·.generation == g)
  | .graph g _ => s.display.any (·.generation == g)
  | .detail _ => false

def open? (s : State) : Option (Nat × Fetch) :=
  s.tasks.zipIdx.findSome? fun (t, i) => (t.fetches.find? Fetch.isPending).map fun f => (i, f)

def fetches (s : State) (test : Fetch → Bool) : List (Nat × Endpoint) :=
  s.tasks.zipIdx.flatMap fun (t, i) => (t.fetches.filter test).map fun f => (i, f.endpoint)

end State
end CallAtlas.Explorer
