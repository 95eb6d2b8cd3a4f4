import CallAtlas.Json.Basic
import CallAtlas.Path

/-! The directory tree over a flat list of stored paths. Directories exist only because a file
lies below them; the root always exists. -/
namespace CallAtlas

inductive Entry
  | directory (name path : String)
  | file (name path : String) (package : Json)
deriving Inhabited

namespace Entry

def name : Entry → String
  | directory name _ => name
  | file name .. => name

def path : Entry → String
  | directory _ path => path
  | file _ path _ => path

def isFile : Entry → Bool
  | directory .. => false
  | file .. => true

def before (a b : Entry) : Bool :=
  if a.isFile = b.isFile then decide (a.name ≤ b.name) else b.isFile

def toJson : Entry → Json
  | directory name path =>
    .object [("type", .text "directory"), ("name", .text name), ("path", .text path)]
  | file name path package =>
    .object [("type", .text "file"), ("name", .text name), ("path", .text path),
      ("package", package)]

end Entry

structure Browser where
  directories : List (String × List Entry)
deriving Inhabited

namespace Browser

def empty : Browser :=
  ⟨[("", [])]⟩

/-- An entry takes the place of one with the same name, whatever that one was. -/
def put (e : Entry) : List Entry → List Entry
  | [] => [e]
  | x :: xs => if x.name = e.name then e :: xs else x :: put e xs

def has (b : Browser) (path : String) : Bool :=
  b.directories.any (·.1 == path)

def entries (b : Browser) (path : String) : List Entry :=
  ((b.directories.find? (·.1 == path)).map (·.2)).getD []

def enter (b : Browser) (directory : String) (e : Entry) : Browser :=
  ⟨b.directories.map fun (path, es) => if path = directory then (path, put e es) else (path, es)⟩

def know (b : Browser) (path : String) : Browser :=
  if b.has path then b else ⟨b.directories ++ [(path, [])]⟩

def child (directory name : String) : String :=
  if directory.isEmpty then name else directory ++ "/" ++ name

/-- Enters the names of a path one below the other, the last as a file. -/
def register (package : Json) (full : String) : Browser → String → List String → Browser
  | b, _, [] => b
  | b, current, [name] => b.enter current (.file name full package)
  | b, current, name :: next :: rest =>
    let path := child current name
    register package full ((b.know path).enter current (.directory name path)) path (next :: rest)

def namesOf (file : String) : List (List Char) :=
  (Path.segments (Path.normalizeBrowse file).toList).filter (· ≠ [])

/-- A path without any name is not entered. -/
def add (b : Browser) (file : String) (package : Json) : Browser :=
  let names := namesOf file
  register package (String.ofList (Path.join names)) b "" (names.map String.ofList)

def ofFiles (files : List (String × Json)) : Browser :=
  files.foldl (fun b (file, package) => b.add file package) empty

def list (b : Browser) (path : String) : List Entry :=
  (b.entries path).mergeSort Entry.before

def size (b : Browser) : Nat :=
  b.directories.length

def summary (b : Browser) : String :=
  s!"FileBrowserIndex(directories={b.size})"

end Browser
end CallAtlas
