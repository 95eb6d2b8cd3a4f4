import CallAtlas.CommandLine.Options
import CallAtlas.Limit
import CallAtlas.Settings

namespace CallAtlas.CommandLine

inductive Action
  | serve (host : Option String) (port : Option Int) (logLevel : Option String)
  | queries (withText asJson : Bool)
  | search (query : String) (limit : Int) (asJson : Bool)
  | resolve (path : String)
  | files (path : String) (asJson : Bool)
  | explore (functionId : String) (budget : Option Int) (asJson : Bool)
  | path (start goal : String) (asJson : Bool)
deriving DecidableEq, Inhabited

structure Command where
  store : Option String
  action : Action
deriving DecidableEq, Inhabited

private def dbFlag : Flag := { name := "db" }
private def jsonFlag : Flag := { name := "json", short := some 'j', takesValue := false }

def flagsOf : String → Option (List Flag)
  | "serve" => some [dbFlag, { name := "host" }, { name := "port", short := some 'p' },
      { name := "log-level" }]
  | "queries" => some [dbFlag, { name := "sql", takesValue := false }, jsonFlag]
  | "search" => some [dbFlag, { name := "limit", short := some 'n' }, jsonFlag]
  | "resolve" => some [dbFlag]
  | "files" => some [dbFlag, jsonFlag]
  | "explore" => some [dbFlag, { name := "budget", short := some 'b' }, jsonFlag]
  | "path" => some [dbFlag, jsonFlag]
  | _ => none

/-- The whole number given with an option; none if it is given and is no number. -/
def integer? (p : Parsed) (name : String) : Option (Option Int) :=
  match p.value? name with
  | none => some none
  | some s => (Number.readOption? s.toList).map some

/-- The variable of an environment that stands in for an option; an empty one does not. -/
def fallback (env : Environment) (given : Option String) (name : String) : Option String :=
  given.or ((env.get? name).filter (!·.isEmpty))

def actionOf (env : Environment) (name : String) (p : Parsed) : Option Action :=
  let asJson := p.has "json"
  match name, p.words with
  | "serve", [] => do
    let port ← integer? p "port"
    return .serve (p.value? "host") port (fallback env (p.value? "log-level") "LOG_LEVEL")
  | "queries", [] => some (.queries (p.has "sql") asJson)
  | "search", [query] => do
    let limit ← integer? p "limit"
    return .search query (limit.getD Limit.standard) asJson
  | "resolve", [path] => some (.resolve path)
  | "files", [] => some (.files "" asJson)
  | "files", [path] => some (.files path asJson)
  | "explore", [functionId] => do
    let budget ← integer? p "budget"
    return .explore functionId budget asJson
  | "path", [start, goal] => some (.path start goal asJson)
  | _, _ => none

def Command.ofArguments (env : Environment) (arguments : List String) : Option Command := do
  match if arguments.head? = some "--" then arguments.drop 1 else arguments with
  | [] => none
  | name :: rest =>
    let flags ← flagsOf name
    let p ← parse flags rest
    let action ← actionOf env name p
    return ⟨fallback env (p.value? "db") "SQLITE_PATH", action⟩

end CallAtlas.CommandLine
