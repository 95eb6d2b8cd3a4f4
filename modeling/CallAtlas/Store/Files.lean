import CallAtlas.Store.Access
import CallAtlas.Store.Pattern

namespace CallAtlas.Store

structure SourceFile where
  file : Json
  package : Json
  content : Json
deriving Inhabited

namespace SourceFile

def toJson (s : SourceFile) : Json :=
  .object [("file", s.file), ("package", s.package), ("content", s.content)]

end SourceFile

variable [Engine]

namespace Sources

def get (file : Json) : Access (Option SourceFile) := do
  let rows ← lookup "sources" ["file", "package", "content"] "file" file
  return rows.head?.map fun row => {
    file := (Row.get row "file").toJson
    package := (Row.get row "package").toJson
    content := (Row.get row "content").toJson.orElse (.text "") }

def contains (file : Json) : Access Bool := do
  return !(← lookup "sources" [] "file" file).isEmpty

def list : Access (List (Json × Json)) := do
  let db ← Access.database
  Access.lift do
    let t ← db.relation "sources"
    t.require ["file", "package"]
    return (sortBy ["file"] t.named).map fun row =>
      ((Row.get row "file").toJson, (Row.get row "package").toJson)

/-- Whether a path ends with a suffix; only the empty path ends with the empty one. -/
def endsWith (suffix file : List Char) : Bool :=
  if suffix.isEmpty then file.isEmpty else suffix.isSuffixOf file

/-- The number of rows that a bound allows; a negative bound allows all. -/
def boundOf (bound : Cell) : Except Failure (Option Nat) :=
  match Affinity.integral.adapt bound with
  | .int n => pure (if n < 0 then none else some n.toNat)
  | _ => throw .boundNotWhole

def withSuffix (suffix bound : Json) : Access (List Json) := do
  Access.connect
  match suffix with
  | .text _ | .list _ | .object _ => pure ()
  | value => throw (.noLength value.kindName)
  let db ← Access.database
  Access.lift do
    let t ← db.relation "sources"
    t.require ["file"]
    let suffix ← Cell.ofParameter 3 suffix
    let bound ← boundOf (← Cell.ofParameter 4 bound)
    let ends (row : Row) : Bool := (Row.get row "file").asText?.any fun file =>
      endsWith (suffix.asText?.getD "").toList (upToNull file.toList)
    let found := (sortBy ["file"] (t.named.filter ends)).map fun row => (Row.get row "file").toJson
    return match bound with
    | some n => found.take n
    | none => found

end Sources

namespace Functions

def detail (id : Json) : Access (Option Fields) := do
  return (← lookup detailView [] "function_id" id).head?.map Row.toFields

def columns : List String :=
  ["function_id", "name", "file", "line", "end_line", "package"]

def inFile (file : Json) : Access (List Fields) := do
  let rows ← lookup detailView columns "file" file
  return (sortBy ["line", "name"] rows).map fun row => (pick columns row).toFields

end Functions
end CallAtlas.Store
