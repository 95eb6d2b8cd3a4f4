import CallAtlas.Failure
import CallAtlas.Number.Reading

namespace CallAtlas

inductive Direction
  | caller
  | callee
deriving DecidableEq, Inhabited

namespace Direction

def name : Direction → String
  | caller => "caller"
  | callee => "callee"

def ofName? (name : String) : Option Direction :=
  [caller, callee].find? (·.name == name)

end Direction

structure FunctionNode where
  id : String
  name : Json := .text ""
  file : Json := .null
  line : Json := .null
  endLine : Json := .null
  package : Json := .null
  parent : Json := .null
deriving Inhabited

namespace FunctionNode

/-- A row may carry the id under either of two columns; without one the id is empty. -/
def idOf (row : Fields) : String :=
  let first := row.get "function_id"
  let id := if first.isNull then row.get "id" else first
  if id.isNull then "" else id.shown

def ofRow (row : Fields) : FunctionNode where
  id := idOf row
  name := (row.get "name").orElse (.text "")
  file := (row.get "file").orElse .null
  line := row.get "line"
  endLine := row.get "end_line"
  package := row.get "package"
  parent := row.get "parent_function"

def ofJson : Json → Except Failure FunctionNode
  | .object row => pure (ofRow row)
  | value => throw (.lacksOperation value.kindName "keys")

def fields (n : FunctionNode) : Fields :=
  [("function_id", .text n.id), ("name", n.name), ("file", n.file), ("line", n.line),
    ("end_line", n.endLine), ("package", n.package), ("parent_function", n.parent)]

def toJson (n : FunctionNode) : Json :=
  .object n.fields

end FunctionNode

structure TraversalNode extends FunctionNode where
  direction : Option Direction := none
  depth : Int := 1
deriving Inhabited

namespace TraversalNode

/-- The whole number that a value stands for; a fraction is cut toward zero. -/
def wholeNumber : Json → Except Failure Int
  | .bool b => pure (if b then 1 else 0)
  | .int n => pure n
  | .double .nan => throw .undefinedInteger
  | .double d =>
    match d.truncate? with
    | some n => pure n
    | none => throw .infiniteInteger
  | .text s => Number.whole s
  | value => throw (.notNumeric value.kindName)

def depthOf (row : Fields) : Except Failure Int :=
  let depth := row.get "depth"
  if depth.isNull then pure 1 else wholeNumber depth

def directionOf (otherwise : Option Direction) (row : Fields) : Option Direction :=
  match (row.get "direction").text?.bind Direction.ofName? with
  | some d => some d
  | none => otherwise

def ofRow (otherwise : Option Direction) (row : Fields) : Except Failure TraversalNode := do
  let depth ← depthOf row
  return { FunctionNode.ofRow row with direction := directionOf otherwise row, depth }

def ofJson (otherwise : Option Direction) : Json → Except Failure TraversalNode
  | .object row => ofRow otherwise row
  | value => throw (.lacksOperation value.kindName "keys")

def toJson (n : TraversalNode) : Json :=
  .object (n.fields ++
    [("direction", .ofOption (n.direction.map Direction.name)), ("depth", .int n.depth)])

end TraversalNode
end CallAtlas
