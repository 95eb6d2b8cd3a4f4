import CallAtlas.Failure
import CallAtlas.Number.Reading

namespace CallAtlas

def requireParam (value : Json) (name : String) : Except Failure String :=
  match value with
  | .text s =>
    let trimmed := Text.trim s.toList
    if trimmed.isEmpty then throw (.parameterRequired name) else pure (String.ofList trimmed)
  | _ => throw (.parameterRequired name)

namespace Limit

def standard : Nat := 25
def greatest : Nat := 50

def clamp (n : Int) : Nat :=
  (min (max n 1) greatest).toNat

def ofDouble (d : Double) : Nat :=
  if d.isWhole then (d.truncate?.map clamp).getD standard else standard

def ofText (s : String) : Nat :=
  ((Number.readDouble? s.toList).map ofDouble).getD standard

/-- Whole numbers, also written as text, are clamped to `1 … 50`; anything else means the standard
limit. -/
def ofJson : Json → Nat
  | .int n => clamp n
  | .double d => ofDouble d
  | .text s => ofText s
  | _ => standard

end Limit
end CallAtlas
