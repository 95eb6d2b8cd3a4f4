import CallAtlas.Failure
import CallAtlas.Json.Basic

/-! Operations that only values of some kinds have: looking up, and being ordered. Numbers are
ordered by size, texts by code points, and lists by the first items that differ. -/
namespace CallAtlas.Json

def asKey : Json → Except Failure Json
  | list items => throw (.noKey (list items).kindName)
  | object fields => throw (.noKey (object fields).kindName)
  | value => pure value

def asFields : Json → Except Failure Fields
  | object fields => pure fields
  | value => throw (.lacksOperation value.kindName "get")

mutual

def before? : Json → Json → Except Failure Bool
  | text s, text t => pure (decide (s < t))
  | list xs, list ys => itemsBefore? xs ys
  | a, b =>
    match a.number?, b.number? with
    | some x, some y => pure (x.compare? y == some .lt)
    | _, _ => throw (.unordered a.kindName b.kindName)

def itemsBefore? : List Json → List Json → Except Failure Bool
  | _, [] => pure false
  | [], _ :: _ => pure true
  | x :: xs, y :: ys => if same x y then itemsBefore? xs ys else before? x y

end

def before (a b : Json) : Bool :=
  match before? a b with
  | .ok b => b
  | .error _ => false

end CallAtlas.Json
