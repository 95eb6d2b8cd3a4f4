import CallAtlas.CommandLine.Command
import CallAtlas.Console.Layout
import CallAtlas.Json.Printing
import CallAtlas.Service

namespace CallAtlas.CommandLine

structure Surroundings where
  environment : Environment
  directory : String
  backing : String → Store.Backing

/-- Names are looked up one by one, so a name that is too long shows where its directory is there. -/
def Surroundings.isTooLong (s : Surroundings) (path : String) : Bool :=
  decide (Path.longest < path.utf8ByteSize) || (Path.beforeLongName? path).any fun directory =>
    match s.backing directory with
    | .unreadable _ => true
    | _ => false

def Surroundings.source (s : Surroundings) (settings : Settings) : Store.Source :=
  match settings.storeFile? s.directory with
  | none => ⟨"", .unconfigured⟩
  | some path => ⟨path, if s.isTooLong path then .unnamable else s.backing path⟩

structure Served where
  host : String
  port : Int
  logLevel : String
deriving DecidableEq, Inhabited

structure Result where
  exitCode : Nat := 0
  output : String := ""
  /-- The fault that ended the command, if one did. -/
  fault : Option Failure := none
  served : Option Served := none
deriving Inhabited

/-- Parts of an output; what follows a part that cannot be printed is not reached. -/
abbrev Page := List (Except Failure String)

def Result.ofPage (exitCode : Nat) (page : Page) : Result :=
  page.foldr (fun part result =>
    match part with
    | .ok s => { result with output := s ++ result.output }
    | .error e => { exitCode := 1, fault := some e }) { exitCode }

/-- A failure of the service is printed; a fault in the data ends the command. -/
def Result.ofFailure (e : Failure) : Result :=
  match e.class? with
  | some _ => .ofPage 1 [Console.print ("[red]" ++ e.message ++ "[/red]")]
  | none => { exitCode := 1, fault := some e }

def jsonPage (value : Json) : Page :=
  [.ok (value.line ++ "\n")]

private def valueOf (payload : Json) (name : String) : Json :=
  (payload.fields?.getD []).get name

private def objectsOf (payload : Json) (name : String) : List Fields :=
  (valueOf payload name).items.filterMap Json.fields?

def queriesPage (withText : Bool) (payload : Json) : Page :=
  (objectsOf payload "queries").flatMap fun query =>
    let name := (query.get "name").shown
    let description := (query.get "description").shown
    let text : Page := match query.get? "sql" with
      | some sql => [Console.print ("  " ++ sql.shown)]
      | none => [.error (.columnMissing "sql")]
    Console.print ("[cyan]" ++ name ++ "[/cyan]  [dim]" ++ description ++ "[/dim]")
      :: (if withText then text else [])

def searchPage (query : String) (payload : Json) : Page :=
  let functions := objectsOf payload "functions"
  if functions.isEmpty then [Console.print ("No matches for '[cyan]" ++ query ++ "[/cyan]'")]
  else functions.flatMap fun function =>
    let id := (function.get "function_id").orElse (function.get "id")
    let file := function.get "file"
    let place := if file.isEmpty then []
      else [Console.print ("  " ++ file.shown ++ ":" ++ (function.get "line").shown)]
    Console.print ("[cyan]" ++ (function.get "name").shown ++ "[/cyan] [dim]" ++ id.shown
      ++ "[/dim]") :: place

def filesPage (payload : Json) : Page :=
  let path := ((valueOf payload "path").orElse (.text "/")).shown
  let count := (valueOf payload "count").shown
  Console.print ("[bold]" ++ path ++ "[/] [dim](" ++ count ++ " entries)[/]")
    :: (objectsOf payload "entries").map fun entry =>
      let name := (entry.get "name").shown
      if (entry.get "type").text? == some "directory" then
        Console.print ("  [blue]" ++ name ++ "/[/]")
      else
        let package := ((entry.get "package").orElse (.text "")).shown
        Console.print ("  " ++ name ++ " [dim]" ++ package ++ "[/]")

def pathPage (payload : Json) : Page :=
  let rows := objectsOf payload "paths"
  if rows.isEmpty then [Console.print "[dim]No path found[/]"]
  else rows.map fun row =>
    Console.print ("  ".intercalate (row.map fun (name, value) => name ++ "=" ++ value.shown))

private def side (n : Graph.Node) : Nat :=
  if n.tags.has .caller then 0 else 1

def listedBefore (a b : Graph.Node) : Bool :=
  let s := side a
  let t := side b
  decide (s < t) || s == t && (decide (a.depth < b.depth) ||
    a.depth == b.depth && !b.name.before a.name)

def listedBefore? (a b : Graph.Node) : Except Failure Bool :=
  let s := side a
  let t := side b
  if s ≠ t then pure (decide (s < t))
  else if a.depth ≠ b.depth then pure (decide (a.depth < b.depth))
  else if a.name.same b.name then pure false
  else a.name.before? b.name

private def relationOf (n : Graph.Node) : String :=
  ", ".intercalate (([Tag.caller, .callee].filter n.tags.has).map Tag.name)

private def locationOf (n : Graph.Node) : String :=
  if n.file.isEmpty then "external" else n.file.shown ++ ":" ++ n.line.shown

def entryOf (n : Graph.Node) : Except Failure String :=
  match n.name with
  | .text s => pure s
  | .null => pure ""
  | value => throw (.notShowable value.kindName)

def graphTable (g : Graph) : Except Failure String := do
  Sorting.check listedBefore? g.nodes
  let nodes := (g.nodes.mergeSort listedBefore).filter fun n => !n.tags.has .focus
  let names ← nodes.mapM entryOf
  Console.table [{ heading := "Relation", entries := nodes.map relationOf },
    { heading := "Depth", numeric := true, entries := nodes.map (toString ·.depth) },
    { heading := "Name", entries := names },
    { heading := "Location", entries := nodes.map locationOf }]

def graphPage (g : Graph) : Page :=
  let focus : Page := match g.withTag .focus with
    | [] => []
    | n :: _ =>
      [Console.print ("\n[bold yellow]▶ " ++ n.name.shown ++ "[/] [yellow]◀ selected[/]"),
        Console.print ("[dim]" ++ n.file.shown ++ ":" ++ n.line.shown ++ "[/]\n")]
  focus ++ [graphTable g,
    Console.print s!"\n[dim]Nodes: {g.nodes.length} | Edges: {g.edges.length}[/]"]

def logLevels : List String :=
  ["CRITICAL", "FATAL", "ERROR", "WARN", "WARNING", "INFO", "DEBUG", "NOTSET"]

/-- An option without a value, or with an empty one, leaves the setting as it is. -/
private def chosen (given : Option String) (set : String) : String :=
  (given.filter (!·.isEmpty)).getD set

def serve (settings : Settings) (host : Option String) (port : Option Int)
    (logLevel : Option String) : Result :=
  let level := (chosen logLevel settings.logLevel).toList
  let capitals := String.ofList (Text.upper level)
  if logLevels.contains capitals then
    { served := some ⟨chosen host settings.host, (port.filter (· != 0)).getD settings.port,
        String.ofList (Text.lower level)⟩ }
  else { exitCode := 1, fault := some (.levelUnknown capitals) }

variable [Store.Engine]

def page (settings : Settings) : Action → Store.Access Page
  | .serve .. => pure []
  | .queries withText asJson => do
    let payload ← Service.listQueries (.bool withText)
    return if asJson then jsonPage payload else queriesPage withText payload
  | .search query limit asJson => do
    let payload ← Service.search (.text query) (.int limit)
    return if asJson then jsonPage payload else searchPage query payload
  | .resolve path => do
    let (_, stored) ← Service.resolveFile settings (.text path)
    return [Console.print stored.shown]
  | .files path asJson => do
    let payload ← Service.listDirectory (.text path)
    return if asJson then jsonPage payload else filesPage payload
  | .explore functionId budget asJson => do
    let g ← Service.explore settings (.text functionId) ((budget.map Json.int).getD .null)
    return if asJson then jsonPage g.toJson else graphPage g
  | .path start goal asJson => do
    let payload ← Service.paths (.text start) (.text goal)
    return if asJson then jsonPage payload else pathPage payload

def perform (around : Surroundings) (settings : Settings) : Action → Result
  | .serve host port logLevel => serve settings host port logLevel
  | action =>
    match (Store.Access.run (page settings action) (around.source settings) {}).1 with
    | .ok page => .ofPage 0 page
    | .error e => .ofFailure e

/-- Arguments that spell no command are a usage error, which prints nothing here. -/
def run (around : Surroundings) (arguments : List String) : Result :=
  match Command.ofArguments around.environment arguments with
  | none => { exitCode := 2 }
  | some command =>
    match Settings.ofEnvironment around.environment with
    | .error e => { exitCode := 1, fault := some e }
    | .ok settings => perform around (settings.withStore command.store) command.action

end CallAtlas.CommandLine
