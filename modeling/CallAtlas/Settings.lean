import CallAtlas.Failure
import CallAtlas.Graph.Budget
import CallAtlas.Number.Reading

namespace CallAtlas

structure Settings where
  storePath : String := "../cp_graph.db"
  host : String := "0.0.0.0"
  port : Int := 3000
  logLevel : String := "info"
  nodeBudget : Int := 60
  extension : String := ".go"
  minSuffixLength : Int := 8
  externalMark : String := "ext:"
deriving Inhabited

/-- The variables of an environment; of several with one name the last counts. -/
abbrev Environment := List (String × String)

namespace Environment

def get? (env : Environment) (name : String) : Option String :=
  (env.reverse.find? (·.1 == name)).map (·.2)

def text (env : Environment) (name otherwise : String) : String :=
  (env.get? name).getD otherwise

def integer (env : Environment) (name : String) (otherwise : Int) : Except Failure Int :=
  match env.get? name with
  | none => pure otherwise
  | some s => Number.whole s

end Environment

namespace Settings

def ofEnvironment (env : Environment) : Except Failure Settings := do
  let standard : Settings := {}
  let port ← env.integer "PORT" standard.port
  let nodeBudget ← env.integer "CGX_NODE_BUDGET" standard.nodeBudget
  let minSuffixLength ← env.integer "CGX_MIN_SUFFIX_LENGTH" standard.minSuffixLength
  return {
    storePath := env.text "SQLITE_PATH" standard.storePath
    host := env.text "HOST" standard.host
    port
    logLevel := env.text "LOG_LEVEL" standard.logLevel
    nodeBudget
    extension := env.text "CGX_SOURCE_EXTENSION" standard.extension
    minSuffixLength
    externalMark := env.text "CGX_EXTERNAL_ID_PREFIX" standard.externalMark }

def withStore (s : Settings) (path : Option String) : Settings :=
  { s with storePath := path.getD s.storePath }

def storeFile? (s : Settings) (directory : String) : Option String :=
  if s.storePath.isEmpty then none else some (Path.absolute directory s.storePath)

def options (s : Settings) : Graph.Options where
  extension := s.extension
  externalMark := s.externalMark

end Settings
end CallAtlas
