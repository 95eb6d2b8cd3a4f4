import CallAtlas.Failure
import CallAtlas.Number.Reading
import CallAtlas.Store.Numeral
import CallAtlas.Text.Encoding

namespace CallAtlas.Store

inductive Cell
  | null
  | int (n : Int)
  | real (d : Double)
  | text (s : String)
deriving DecidableEq, Inhabited

/-- Names of tables and columns are one if they differ in the case of ASCII letters at most. -/
def sameName (a b : String) : Bool :=
  a == b || a.toLower == b.toLower

abbrev Row := List (String × Cell)

namespace Cell

def toJson : Cell → Json
  | null => .null
  | int n => .int n
  | real d => .double d
  | text s => .text s

def ofJson? : Json → Option Cell
  | .null => some null
  | .bool b => some (int (if b then 1 else 0))
  | .int n => some (int n)
  | .double d => some (real d)
  | .text s => some (text s)
  | _ => none

def holds (n : Int) : Bool :=
  decide (-9223372036854775808 ≤ n ∧ n ≤ 9223372036854775807)

def ofParameter (position : Nat) (value : Json) : Except Failure Cell :=
  match ofJson? value with
  | some (int n) => if holds n then pure (int n) else throw .integerTooLarge
  | some (text s) => do
    Text.Encoding.checkWritable s
    return text s
  | some cell => pure cell
  | none => throw (.bindingUnsupported position value.kindName)

def number? : Cell → Option Double
  | int n => some (.exactly n)
  | real d => some d
  | _ => none

def text? : Cell → Option String
  | text s => some s
  | _ => none

def asText? : Cell → Option String
  | null => none
  | int n => some (toString n)
  | real d => some (Numeral.write d)
  | text s => some s

/-- An absent value equals nothing; numbers of both kinds compare by value. -/
def same : Cell → Cell → Bool
  | text s, text t => s == t
  | a, b =>
    match a.number?, b.number? with
    | some x, some y => x.compare? y == some .eq
    | _, _ => false

def atMost : Cell → Cell → Bool
  | null, _ => true
  | _, null => false
  | text s, text t => decide (s ≤ t)
  | text _, _ => false
  | _, text _ => true
  | a, b =>
    match a.number?, b.number? with
    | some x, some y => x.compare? y != some .gt
    | _, _ => true

end Cell

inductive Affinity
  | textual
  | integral
  | untyped
deriving DecidableEq, Inhabited

namespace Affinity

/-- A double without a fraction becomes an integer if it is far enough from the ends of their
range. -/
def settled (d : Double) : Cell :=
  match d.truncate? with
  | some n =>
    if d.isWhole && decide (n.natAbs < 9223372036854775807) then .int n else .real d
  | none => .real d

private def isAsciiBlank (c : Char) : Bool :=
  c == ' ' || decide (9 ≤ c.toNat ∧ c.toNat ≤ 13)

def numeral? (s : String) : Option Cell := do
  let cs := Text.strip isAsciiBlank s.toList
  let d ← Numeral.read? cs
  match if d.isWhole then Number.readInteger? cs else none with
  | some n => return if Cell.holds n then .int n else settled d.toDouble
  | none => return settled d.toDouble

def adapt : Affinity → Cell → Cell
  | textual, .int n => .text (toString n)
  | textual, .real d => .text (Numeral.write d)
  | integral, .text s => (numeral? s).getD (.text s)
  | integral, .real d => settled d
  | _, cell => cell

end Affinity

namespace Row

def get? (row : Row) (name : String) : Option Cell :=
  (row.find? fun field => sameName field.1 name).map (·.2)

def get (row : Row) (name : String) : Cell :=
  (get? row name).getD .null

/-- Each name once, with the first value that there is for it in either case. -/
def toFields (row : Row) : Fields :=
  ((row.map (·.1)).eraseDups).map fun name => (name, (get row name).toJson)

def toJson (row : Row) : Json :=
  .object (toFields row)

end Row
end CallAtlas.Store
