import CallAtlas.Failure
import CallAtlas.Query.Placeholder

namespace CallAtlas

structure Query where
  name : Json
  text : String
  parameters : List String
deriving Inhabited

inductive Binding
  | named (values : Fields)
  | positional (values : List Json)
deriving Inhabited

namespace Binding

def toJson : Binding → Json
  | named values => .object values
  | positional values => .list values

end Binding

namespace Query

def compile (name : Json) (text : String) : Query :=
  ⟨name, text, placeholders text⟩

/-- Picks the declared values and ignores the others. -/
def bindNamed (q : Query) (values : Fields) : Except Failure Binding :=
  let missing := q.parameters.filter (!values.has ·)
  if missing.isEmpty then pure (.named (q.parameters.map fun p => (p, values.get p)))
  else throw (.valuesMissing q.name.shown missing)

/-- Values by name are checked against the query. A list goes to the statement as it is, and so
does a text, character by character. -/
def bind (q : Query) : Json → Except Failure Binding
  | .null => q.bindNamed []
  | .object values => q.bindNamed values
  | .list values => pure (.positional values)
  | .text s => pure (.positional (s.toList.map fun c => .text c.toString))
  | value => throw (.notIterable value.kindName)

end Query
end CallAtlas
