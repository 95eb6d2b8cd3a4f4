import CallAtlas.CommandLine.Run
import CallAtlas.Store.Document

/-! The program. Its stores are files that hold a store as a JSON document. -/
namespace CallAtlas.CommandLine

def environmentNames : List String :=
  ["SQLITE_PATH", "HOST", "PORT", "LOG_LEVEL", "CGX_NODE_BUDGET", "CGX_SOURCE_EXTENSION",
    "CGX_MIN_SUFFIX_LENGTH", "CGX_EXTERNAL_ID_PREFIX"]

def readEnvironment : IO Environment :=
  environmentNames.filterMapM fun name => do
    return (← IO.getEnv name).map (name, ·)

def readBacking (path : String) : IO Store.Backing := do
  try
    return .ofContent (← IO.FS.readFile path)
  catch
    | .noFileOrDirectory .. => return .missing
    | e => return .unreadable (toString e)

def storeFile? (environment : Environment) (directory : String) (arguments : List String) :
    Option String := do
  let command ← Command.ofArguments environment arguments
  let settings ← (Settings.ofEnvironment environment).toOption
  (settings.withStore command.store).storeFile? directory

end CallAtlas.CommandLine

open CallAtlas.CommandLine in
def main (arguments : List String) : IO UInt32 := do
  let environment ← readEnvironment
  let directory := (← IO.currentDir).toString
  let backing ← match storeFile? environment directory arguments with
    | some path => readBacking path
    | none => pure .unconfigured
  let result := run ⟨environment, directory, fun _ => backing⟩ arguments
  IO.print result.output
  if result.exitCode = 2 then
    IO.eprintln "Commands: serve, queries, search, resolve, files, explore, path"
  if let some fault := result.fault then
    IO.eprintln fault.message
  if let some served := result.served then
    IO.eprintln s!"Nothing listens here for {served.host}:{served.port}"
  return UInt32.ofNat result.exitCode
