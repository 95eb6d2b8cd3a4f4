import CallAtlas.Query.Placeholder
import CallAtlas.Store.Cell

namespace CallAtlas.Store

structure Slot where
  sigil : Char
  name : String
deriving DecidableEq, Inhabited

inductive Token
  | word (s : String)
  | name (s : String)
  | text (s : String)
  /-- A number without a sign, as it is written. -/
  | number (cs : List Char)
  | slot (s : Slot)
  | mark (c : Char)
deriving DecidableEq, Inhabited

namespace Token

/-- Characters that can stand within a name: all but the ASCII ones that are no letter, digit,
underscore or dollar sign. -/
def isNamePart (c : Char) : Bool :=
  c.isAlphanum || c == '_' || c == '$' || decide (128 ≤ c.toNat)

def isBlank (c : Char) : Bool :=
  c == ' ' || c == '\t' || c == '\n' || c == '\x0c' || c == '\r'

def quotedPart (quote : Char) : List Char → Option (List Char × List Char)
  | [] => none
  | [c] => if c = quote then some ([], []) else none
  | c :: d :: cs =>
    if c = quote then
      if d = quote then (quotedPart quote cs).map fun (s, rest) => (quote :: s, rest)
      else some ([], d :: cs)
    else (quotedPart quote (d :: cs)).map fun (s, rest) => (c :: s, rest)

private def isHexDigit (c : Char) : Bool :=
  c.isDigit || ['a', 'b', 'c', 'd', 'e', 'f'].contains c.toLower

private def isExponentLetter (c : Char) : Bool :=
  c == 'e' || c == 'E'

private def isSign (c : Char) : Bool :=
  c == '+' || c == '-'

private def exponentLength : List Char → Nat
  | letter :: cs =>
    let signs := if cs.head?.any isSign then 1 else 0
    let digits := (cs.drop signs).takeWhile Char.isDigit
    if isExponentLetter letter && !digits.isEmpty then 1 + signs + digits.length else 0
  | [] => 0

private def numberLength (cs : List Char) : Nat :=
  match cs with
  | '0' :: x :: d :: rest =>
    if x.toLower == 'x' && isHexDigit d then 3 + (rest.takeWhile isHexDigit).length
    else decimalLength
  | _ => decimalLength
where
  decimalLength : Nat :=
    let whole := (cs.takeWhile Char.isDigit).length
    let pointed := match cs.drop whole with
      | '.' :: rest => whole + 1 + (rest.takeWhile Char.isDigit).length
      | _ => whole
    pointed + exponentLength (cs.drop pointed)

private def number? (cs : List Char) : Option (Token × List Char) :=
  let n := numberLength cs
  let rest := cs.drop n
  if rest.head?.any isNamePart then none else some (.number (cs.take n), rest)

def first? (c : Char) (cs : List Char) : Option (Token × List Char) :=
  if c = '\x27' then
    (quotedPart c cs).map fun (s, rest) => (.text (String.ofList s), rest)
  else if c = '\x22' || c = '\x60' then
    (quotedPart c cs).map fun (s, rest) => (.name (String.ofList s), rest)
  else if c = '[' then
    if cs.contains ']' then
      some (.name (String.ofList (cs.takeWhile (· != ']'))), (cs.dropWhile (· != ']')).drop 1)
    else none
  else if Query.isSigil c then
    let name := cs.takeWhile isNamePart
    if name.isEmpty then none
    else some (.slot ⟨c, String.ofList name⟩, cs.dropWhile isNamePart)
  else if c.isDigit || c == '.' && cs.head?.any Char.isDigit then number? (c :: cs)
  else if isNamePart c then
    some (.word (String.ofList (c :: cs.takeWhile isNamePart)), cs.dropWhile isNamePart)
  else some (.mark c, cs)

/-- What follows the blank or comment that a text begins with. A block comment may reach to the end
of the text. -/
def afterBlank? : List Char → Option (List Char)
  | '-' :: '-' :: cs => some (cs.dropWhile (· != '\n'))
  | '/' :: '*' :: c :: cs => some ((Query.closeBlock (c :: cs)).getD [])
  | c :: cs => if isBlank c then some cs else none
  | [] => none

private def read : Nat → List Char → Option (List Token)
  | 0, _ => none
  | fuel + 1, cs =>
    match cs with
    | [] => some []
    | c :: rest =>
      match afterBlank? cs with
      | some after => read fuel after
      | none => do
        let (t, rest) ← first? c rest
        return t :: (← read fuel rest)

def ofText? (text : String) : Option (List Token) :=
  read (text.length + 1) text.toList

def isKeyword (t : Token) (keyword : String) : Bool :=
  match t with
  | .word s => s.toUpper == keyword
  | _ => false

def name? : Token → Option String
  | .word s | .name s => some s
  | _ => none

end Token

/-- The value of digits to the base 16, of which those behind the leading zeros are sixteen at
most. The upper half of the values is negative. -/
private def hexCell? (negative : Bool) (digits : List Char) : Option Cell :=
  let digits := digits.dropWhile (· == '0')
  if 16 < digits.length then none
  else
    let size : Nat := digits.foldl (fun n c =>
      16 * n + (if c.isDigit then c.toNat - 48 else c.toLower.toNat - 87)) 0
    let n : Int := if 9223372036854775808 ≤ size then size - 18446744073709551616 else size
    let value := if negative then -n else n
    if Cell.holds value then some (.int value) else none

def numberCell? (negative : Bool) (cs : List Char) : Option Cell :=
  match cs with
  | '0' :: 'x' :: digits | '0' :: 'X' :: digits => hexCell? negative digits
  | _ => do
    let d ← Numeral.read? cs
    let double := Cell.real { d with negative }.toDouble
    match if d.isWhole then Number.readInteger? cs else none with
    | some n =>
      let value := if negative then -n else n
      return if Cell.holds value then .int value else double
    | none => return double

private def negated : Cell → Cell
  | .int n =>
    if Cell.holds (-n) then .int (-n) else .real (.ofDecimal false n.natAbs 0)
  | .real (.finite negative m e) => .real (.finite (!negative && m != 0) m e)
  | .real (.infinite negative) => .real (.infinite !negative)
  | cell => cell

/-- The number that tokens begin with, with any signs in front. A minus right in front of a number
belongs to it; others subtract. -/
def signed? : List Token → Option (Cell × List Token)
  | .number cs :: rest => (numberCell? false cs).map (·, rest)
  | .mark '-' :: .number cs :: rest => (numberCell? true cs).map (·, rest)
  | .mark '-' :: rest => (signed? rest).map fun (cell, rest) => (negated cell, rest)
  | .mark '+' :: rest => signed? rest
  | _ => none

end CallAtlas.Store
