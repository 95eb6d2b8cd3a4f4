import CallAtlas.Explorer.State
import CallAtlas.Http.Location
import CallAtlas.Json.Operations

namespace CallAtlas.Explorer

open Http (Endpoint)

inductive Event
  | explore (focal : FunctionNode)
  | exploreId (functionId : Json)
  | loadFile (path : Json)
  | settle (task : Nat) (endpoint : Endpoint) (reply : Except Failure Json)
  | cancel (task : Nat)
deriving Inhabited

def graphFetches (focal : FunctionNode) : List Fetch :=
  let id := Json.text focal.id
  [⟨.neighborhood id, .pending⟩, ⟨.callChain id, .pending⟩, ⟨.callers id, .pending⟩]

def fileFetches (path : Json) : List Fetch :=
  [⟨.file path, .pending⟩, ⟨.fileFunctions path, .pending⟩]

def itemsOf : Json → Except Failure (List Json)
  | .list items => pure items
  | .text s => pure (s.toList.map fun c => .text c.toString)
  | .object fields => pure (fields.map fun (name, _) => .text name)
  | value => throw (.notIterable value.kindName)

def nodesOf (otherwise : Option Direction) (payload : Json) :
    Except Failure (List TraversalNode) := do
  let fields ← payload.asFields
  let rows ← itemsOf ((fields.get "nodes").orElse (.list []))
  rows.mapM (TraversalNode.ofJson otherwise)

def graphOf (setup : Setup) (focal : FunctionNode) (neighborhood callChain callers : Json) :
    Except Failure Graph := do
  let neighbors ← nodesOf none neighborhood
  let callees ← nodesOf (some .callee) callChain
  let callers ← nodesOf (some .caller) callers
  Graph.assemble? setup.options setup.budget { focal, neighbors, callees, callers }

def fileOf (path file functions : Json) : Except Failure LoadedFile := do
  let fields ← file.asFields
  let declared ← itemsOf (((← functions.asFields).get "functions").orElse (.list []))
  return {
    requested := (fields.get "fileRequested").orElse path
    resolved := (fields.get "fileResolved").orElse path
    package := fields.get "package"
    content := (fields.get "content").orElse (.text "")
    functions := declared }

namespace State

/-- A failed load of the latest generation leaves nothing on display; a look-up that fails changes
nothing there. -/
def clear (s : State) (t : Task) : State :=
  match t.stage with
  | .detail _ => s
  | .graph g _ => if g = s.generation then { s with display := none } else s
  | .file g _ => if g = s.fileGeneration then { s with file := none } else s

def fail (s : State) (i : Nat) (t : Task) (e : Failure) : State :=
  s.replace i (t.finish (.failed e))

/-- Starts on the graph around a function; this counts as a new load. -/
def enter (s : State) (i : Nat) (t : Task) (focal : FunctionNode) : State :=
  let g := s.generation + 1
  { s with generation := g }.replace i
    { t with stage := .graph g focal, fetches := t.fetches ++ graphFetches focal }

def advance (setup : Setup) (s : State) (i : Nat) (t : Task) : State :=
  match t.stage with
  | .detail g =>
    if g ≠ s.generation then s.replace i (t.finish .stale)
    else
      match FunctionNode.ofJson (t.payload .functionDetail) with
      | .error e => s.fail i t e
      | .ok focal => s.enter i t focal
  | .graph g focal =>
    if g ≠ s.generation then s.replace i (t.finish .stale)
    else
      match graphOf setup focal (t.payload .neighborhood) (t.payload .callChain)
        (t.payload .callers) with
      | .error e => s.fail i t e
      | .ok graph => { s with display := some ⟨g, focal, graph⟩ }.replace i (t.finish .published)
  | .file g path =>
    if g ≠ s.fileGeneration then s.replace i (t.finish .stale)
    else
      match fileOf path (t.payload .file) (t.payload .fileFunctions) with
      | .error e => s.fail i t e
      | .ok file => { s with file := some ⟨g, file⟩ }.replace i (t.finish .published)

def isOpen (e : Endpoint) (f : Fetch) : Bool :=
  f.endpoint == e && f.isPending

def accepts (s : State) : Event → Bool
  | .settle i e _ => (s.task? i).any fun t => t.isPending && t.fetches.any (isOpen e)
  | .cancel i => (s.task? i).any (·.isPending)
  | _ => true

def answered (e : Endpoint) (reply : Except Failure Json) (f : Fetch) : Fetch :=
  if isOpen e f then { f with progress := .answered reply } else f

/-- A failed request ends its task; the last of the answers lets it go on. -/
def settle (setup : Setup) (s : State) (i : Nat) (t : Task) (e : Endpoint)
    (reply : Except Failure Json) : State :=
  let t := { t with fetches := t.fetches.map (answered e reply) }
  match reply with
  | .error failure => (s.clear t).fail i t failure
  | .ok _ => if t.fetches.any Fetch.isPending then s.replace i t else s.advance setup i t

def add (s : State) (stage : Stage) (fetches : List Fetch) : State :=
  { s with tasks := s.tasks ++ [{ stage, fetches }] }

/-- An event that does not find what it is about changes nothing. -/
def step (setup : Setup) (s : State) (event : Event) : State :=
  match event with
  | .explore focal =>
    let g := s.generation + 1
    { s with generation := g }.add (.graph g focal) (graphFetches focal)
  | .exploreId id =>
    let g := s.generation + 1
    { s with generation := g }.add (.detail g) [⟨.functionDetail id, .pending⟩]
  | .loadFile path =>
    let g := s.fileGeneration + 1
    { s with fileGeneration := g }.add (.file g path) (fileFetches path)
  | .settle i e reply =>
    match s.task? i with
    | some t => if s.accepts event then s.settle setup i t e reply else s
    | none => s
  | .cancel i =>
    match s.task? i with
    | some t => if t.isPending then s.replace i (t.finish .cancelled) else s
    | none => s

end State

def Fetch.unwritable? (f : Fetch) : Option Failure :=
  match Http.Location.checkQuery f.call.request.params with
  | .ok _ => none
  | .error e => some e

def Task.unsent? (t : Task) : Option Failure :=
  (t.fetches.filter Fetch.isPending).findSome? Fetch.unwritable?

namespace State

def dropUnsent (s : State) (t : Task) (i : Nat) : State :=
  match t.unsent? with
  | none => s
  | some e =>
    let t := { t with fetches := t.fetches.filter (!·.isPending) }
    (s.clear t).fail i t e

def settled (s : State) : State :=
  s.tasks.zipIdx.foldl (fun s (t, i) => s.dropUnsent t i) s

def respond (setup : Setup) (s : State) (event : Event) : State :=
  (s.step setup event).settled

def run (setup : Setup) (s : State) (events : List Event) : State :=
  events.foldl (respond setup) s

end State
end CallAtlas.Explorer
