import CallAtlas.Number.Shortest
import CallAtlas.Text.Printable

/-! JSON values. Objects keep their fields in order, and integers stay apart from doubles, so that
a value that is only passed on comes out as it went in. -/
namespace CallAtlas

inductive Json
  | null
  | bool (b : Bool)
  | int (n : Int)
  | double (d : Double)
  | text (s : String)
  | list (items : List Json)
  | object (fields : List (String × Json))
deriving Inhabited

abbrev Fields := List (String × Json)

namespace Fields

def get? (fields : Fields) (name : String) : Option Json :=
  (fields.find? (·.1 == name)).map (·.2)

/-- An absent field counts as null. -/
def get (fields : Fields) (name : String) : Json :=
  (fields.get? name).getD .null

def has (fields : Fields) (name : String) : Bool :=
  fields.any (·.1 == name)

/-- A field set again keeps its place and takes the new value. -/
def insert (fields : Fields) (name : String) (value : Json) : Fields :=
  match fields with
  | [] => [(name, value)]
  | f :: fs => if f.1 = name then (name, value) :: fs else f :: insert fs name value

def ofPairs (pairs : Fields) : Fields :=
  pairs.foldl (fun fields (name, value) => fields.insert name value) []

end Fields

namespace Json

/-- Null, false, zero and the empty text, list and object stand for an absent value. -/
def isEmpty : Json → Bool
  | null => true
  | bool b => !b
  | int n => n == 0
  | double d => d.isZero
  | text s => s.isEmpty
  | list items => items.isEmpty
  | object fields => fields.isEmpty

def orElse (value fallback : Json) : Json :=
  if value.isEmpty then fallback else value

def isNull : Json → Bool
  | null => true
  | _ => false

def text? : Json → Option String
  | text s => some s
  | _ => none

def fields? : Json → Option Fields
  | object fields => some fields
  | _ => none

def items : Json → List Json
  | list items => items
  | _ => []

def ofOption : Option String → Json
  | some s => text s
  | none => null

def kindName : Json → String
  | null => "NoneType"
  | bool _ => "bool"
  | int _ => "int"
  | double _ => "float"
  | text _ => "str"
  | list _ => "list"
  | object _ => "dict"

/-- Numbers by value; booleans are the numbers zero and one. -/
def number? : Json → Option Double
  | bool b => some (.exactly (if b then 1 else 0))
  | int n => some (.exactly n)
  | double d => some d
  | _ => none

mutual

/-- Equality by value: numbers of all kinds compare as numbers, and the order of an object's
fields does not matter. -/
def same : Json → Json → Bool
  | null, null => true
  | text s, text t => s == t
  | list xs, list ys => sameItems xs ys
  | object fs, object gs => fs.length == gs.length && sameFields fs gs
  | a, b =>
    match a.number?, b.number? with
    | some x, some y => x.compare? y == some .eq
    | _, _ => false

def sameItems : List Json → List Json → Bool
  | [], [] => true
  | x :: xs, y :: ys => same x y && sameItems xs ys
  | _, _ => false

def sameFields : List (String × Json) → List (String × Json) → Bool
  | [], _ => true
  | (name, x) :: fs, gs =>
    (match gs.find? (·.1 == name) with
    | some (_, y) => same x y
    | none => false) && sameFields fs gs

end

theorem eq_text_of_same {value : Json} {s : String} (h : value.same (.text s) = true) :
    value = .text s := by
  cases value <;> simp_all [same, number?]

mutual

def finite : Json → Json
  | double (.infinite _) | double .nan => null
  | list items => list (finiteItems items)
  | object fields => object (finiteFields fields)
  | value => value

def finiteItems : List Json → List Json
  | [] => []
  | x :: xs => finite x :: finiteItems xs

def finiteFields : List (String × Json) → List (String × Json)
  | [] => []
  | (name, x) :: fs => (name, finite x) :: finiteFields fs

end

private def quoted (s : String) : String :=
  String.ofList (Text.quoted s.toList)

mutual

/-- A value as a part of a longer text: texts are quoted, absent is `None`. -/
def inner : Json → String
  | null => "None"
  | bool b => if b then "True" else "False"
  | int n => toString n
  | double d => d.text
  | text s => quoted s
  | list items => "[" ++ ", ".intercalate (innerItems items) ++ "]"
  | object fields => "\x7b" ++ ", ".intercalate (innerFields fields) ++ "\x7d"

def innerItems : List Json → List String
  | [] => []
  | x :: xs => inner x :: innerItems xs

def innerFields : List (String × Json) → List String
  | [] => []
  | (name, x) :: fs => (quoted name ++ ": " ++ inner x) :: innerFields fs

end

def shown : Json → String
  | text s => s
  | value => value.inner

end Json
end CallAtlas
