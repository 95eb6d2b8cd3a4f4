import CallAtlas.Failure

namespace CallAtlas.Client

structure Parameter where
  name : String
  /-- The value of a parameter that is left out; none if it may not be. -/
  otherwise : Option Json := none
deriving Inhabited

structure Signature where
  callee : String
  parameters : List Parameter
  isOpen : Bool := false
deriving Inhabited

structure Arguments where
  positional : List Json := []
  named : Fields := []
deriving Inhabited

namespace Signature

private def quotedName (name : String) : String :=
  "'" ++ name ++ "'"

def listed : List String → String
  | [] => ""
  | [a] => quotedName a
  | [a, b] => quotedName a ++ " and " ++ quotedName b
  | names =>
    ", ".intercalate (names.dropLast.map quotedName) ++ ", and "
      ++ quotedName (names.getLast?.getD "")

def complaint (s : Signature) (text : String) : Failure :=
  .badCall s.callee text

/-- The receiver of a call counts as an argument. -/
def tooMany (s : Signature) (given : Nat) : Failure :=
  let least := (s.parameters.filter (·.otherwise.isNone)).length + 1
  let most := s.parameters.length + 1
  let range := if least = most then toString most else s!"from {least} to {most}"
  let plural := if least = most && most == 1 then "" else "s"
  s.complaint s!"takes {range} positional argument{plural} but {given + 1} were given"

def missing (s : Signature) (names : List String) : Failure :=
  let plural := if names.length = 1 then "" else "s"
  s.complaint (s!"missing {names.length} required positional argument{plural}: " ++ listed names)

def receiver : String := "self"

def misnamed? (s : Signature) (a : Arguments) : Option Failure :=
  a.named.findSome? fun (name, _) =>
    let taken := (receiver :: s.parameters.map (·.name)).take (a.positional.length + 1)
    if taken.contains name then
      some (s.complaint ("got multiple values for argument " ++ quotedName name))
    else if s.isOpen || s.parameters.any (·.name == name) then none
    else some (s.complaint ("got an unexpected keyword argument " ++ quotedName name))

private def valueOf (a : Arguments) (p : Parameter) (i : Nat) : Option Json :=
  (a.positional[i]?).or ((a.named.get? p.name).or p.otherwise)

/-- A value for each parameter. Misnamed arguments are refused first, then too many of them, then
too few. -/
def bind (s : Signature) (a : Arguments) : Except Failure Fields := do
  if let some e := s.misnamed? a then throw e
  if s.parameters.length < a.positional.length then throw (s.tooMany a.positional.length)
  let values := s.parameters.zipIdx.map fun (p, i) => (p.name, valueOf a p i)
  let absent := values.filter (·.2.isNone)
  if !absent.isEmpty then throw (s.missing (absent.map (·.1)))
  return values.map fun (name, value) => (name, value.getD .null)

end Signature
end CallAtlas.Client
