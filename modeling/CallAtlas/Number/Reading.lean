import CallAtlas.Failure
import CallAtlas.Number.Double
import CallAtlas.Text.Basic

namespace CallAtlas.Number

open Text

/-- Removes the underscores; none if one does not stand between two digits. -/
def dropSeparators (afterDigit : Bool) : List Char → Option (List Char)
  | [] => some []
  | '_' :: c :: cs =>
    if afterDigit && isDigit c then dropSeparators false (c :: cs) else none
  | ['_'] => none
  | c :: cs => (dropSeparators (isDigit c) cs).map (c :: ·)

def splitSign : List Char → Bool × List Char
  | '-' :: cs => (true, cs)
  | '+' :: cs => (false, cs)
  | cs => (false, cs)

def readInteger? (cs : List Char) : Option Int := do
  let (negative, body) := splitSign (strip isMargin cs)
  let digits ← dropSeparators false body
  if digits.isEmpty || !digits.all isDigit then none
  let n : Int := digitsValue digits
  return if negative then -n else n

def mostDigits : Nat := 4300

/-- A number without the zeros and underscores in front of its first other digit; none if it begins
with anything but a digit or a minus. A minus keeps the zeros behind it. -/
private def dropZeros : List Char → Option (List Char)
  | '0' :: cs =>
    match cs.dropWhile fun c => c == '0' || c == '_' with
    | [] => some (cs.getLast?.getD '0' :: [])
    | '.' :: rest => some ('0' :: '.' :: rest)
    | c :: rest => if c.isDigit then some (c :: rest) else none
  | c :: cs => if c.isDigit || c == '-' then some (c :: cs) else none
  | [] => none

/-- Without the underscores, which stand one by one within a number. -/
private def dropUnderscores (cs : List Char) : Option (List Char) :=
  let doubled := (cs.zip (cs.drop 1)).any fun (a, b) => a == '_' && b == '_'
  if cs.head? == some '_' || cs.getLast? == some '_' || doubled then none
  else some (cs.filter (· != '_'))

/-- The whole number of an option: ASCII digits alone, and nothing but zeros behind a point. -/
def readOption? (cs : List Char) : Option Int := do
  let body := strip isMargin cs
  let body ← match body with
    | '+' :: '-' :: _ => none
    | '+' :: rest => dropZeros rest
    | _ => dropZeros body
  let fraction := (body.dropWhile (· != '.')).tail?
  if fraction.any fun zeros => zeros.isEmpty || !zeros.all (· == '0') then none
  let digits ← dropUnderscores (body.takeWhile (· != '.'))
  if mostDigits < digits.length then none
  let (negative, digits) := match digits with
    | '-' :: digits => (true, digits)
    | _ => (false, digits)
  if digits.isEmpty || !digits.all Char.isDigit then none
  let n : Int := digitsValue digits
  return if negative then -n else n

def lowered (cs : List Char) : List Char :=
  cs.map Char.toLower

def readExponent? : List Char → Option Int
  | [] => some 0
  | mark :: cs =>
    if mark == 'e' || mark == 'E' then
      let (negative, digits) := splitSign cs
      if digits.isEmpty || !digits.all isDigit then none
      else
        let n : Int := digitsValue digits
        some (if negative then -n else n)
    else none

def readUnsigned? (negative : Bool) (cs : List Char) : Option Double := do
  let whole := cs.takeWhile isDigit
  let rest := cs.dropWhile isDigit
  let (fraction, rest) := match rest with
    | '.' :: after => (after.takeWhile isDigit, after.dropWhile isDigit)
    | _ => ([], rest)
  if whole.isEmpty && fraction.isEmpty then none
  let exponent ← readExponent? rest
  return Double.ofDecimal negative (digitsValue (whole ++ fraction)) (exponent - fraction.length)

def readDouble? (cs : List Char) : Option Double := do
  let body ← dropSeparators false (trim cs)
  let (negative, body) := splitSign body
  let word := lowered body
  if word == "inf".toList || word == "infinity".toList then return .infinite negative
  if word == "nan".toList then return .nan
  readUnsigned? negative body

/-- The number of digits that a text begins with, if there are more of them than an integer may
have. -/
def excessDigits? (cs : List Char) : Option Nat := do
  let (_, body) := splitSign (Text.strip Text.isMargin cs)
  let digits ← dropSeparators false (body.takeWhile fun c => c == '_' || Text.isDigit c)
  if mostDigits < digits.length then some digits.length else none

/-- Too many digits are noticed before anything that follows them. -/
def whole (s : String) : Except Failure Int :=
  match excessDigits? s.toList, readInteger? s.toList with
  | some digits, _ => throw (.integerTooLong digits)
  | none, some n => pure n
  | none, none => throw (.notInteger s)

end CallAtlas.Number
