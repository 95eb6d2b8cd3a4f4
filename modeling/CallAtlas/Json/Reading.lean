import CallAtlas.Json.Basic
import CallAtlas.Number.Reading

namespace CallAtlas.Json

private def isSpace (c : Char) : Bool :=
  c == ' ' || c == '\n' || c == '\t' || c == '\r'

private def skipSpace (cs : List Char) : List Char :=
  cs.dropWhile isSpace

private def readUnit? : List Char → Option (Nat × List Char)
  | a :: b :: c :: d :: cs => do
    let a ← Text.hexValue? a
    let b ← Text.hexValue? b
    let c ← Text.hexValue? c
    let d ← Text.hexValue? d
    some (a * 4096 + b * 256 + c * 16 + d, cs)
  | _ => none

private def plainEscape? (c : Char) : Option Char :=
  if c == '\x22' || c == '\\' || c == '/' then some c
  else if c == 'b' then some '\x08'
  else if c == 'f' then some '\x0c'
  else if c == 'n' then some '\n'
  else if c == 'r' then some '\r'
  else if c == 't' then some '\t'
  else none

/-- A character from one unit or a pair of them; a half may stand alone. -/
private def joinUnits (first : Nat) (cs : List Char) : Char × List Char :=
  if 0xD800 ≤ first ∧ first < 0xDC00 then
    match cs with
    | '\\' :: 'u' :: rest =>
      match readUnit? rest with
      | some (second, after) =>
        if 0xDC00 ≤ second ∧ second < 0xE000 then
          (Char.ofNat (0x10000 + (first - 0xD800) * 0x400 + (second - 0xDC00)), after)
        else (Text.Half.ofUnit first, cs)
      | none => (Text.Half.ofUnit first, cs)
    | _ => (Text.Half.ofUnit first, cs)
  else if 0xDC00 ≤ first ∧ first < 0xE000 then (Text.Half.ofUnit first, cs)
  else (Char.ofNat first, cs)

private def readString? : Nat → List Char → List Char → Option (String × List Char)
  | 0, _, _ => none
  | fuel + 1, done, cs =>
    match cs with
    | [] => none
    | '\x22' :: rest => some (String.ofList done.reverse, rest)
    | '\\' :: 'u' :: rest => do
      let (first, rest) ← readUnit? rest
      let (c, rest) := joinUnits first rest
      readString? fuel (c :: done) rest
    | '\\' :: c :: rest => do
      let c ← plainEscape? c
      readString? fuel (c :: done) rest
    | c :: rest => if c.toNat < 32 then none else readString? fuel (c :: done) rest

private def digitsOf (cs : List Char) : List Char × List Char :=
  (cs.takeWhile Char.isDigit, cs.dropWhile Char.isDigit)

/-- A fraction or an exponent that is not complete is left for what follows. -/
private def readFraction (cs : List Char) : List Char × List Char :=
  match cs with
  | '.' :: after =>
    let (digits, rest) := digitsOf after
    if digits.isEmpty then ([], cs) else ('.' :: digits, rest)
  | _ => ([], cs)

private def readExponent (cs : List Char) : List Char × List Char :=
  match cs with
  | mark :: after =>
    if mark == 'e' || mark == 'E' then
      let (sign, after) := match after with
        | '-' :: r => (['-'], r)
        | '+' :: r => (['+'], r)
        | r => ([], r)
      let (digits, rest) := digitsOf after
      if digits.isEmpty then ([], cs) else (mark :: sign ++ digits, rest)
    else ([], cs)
  | [] => ([], cs)

private def readNumber (cs : List Char) : Except Failure (Json × List Char) := do
  let (sign, body) := match cs with
    | '-' :: r => (['-'], r)
    | r => ([], r)
  let (whole, rest) := match body with
    | '0' :: r => (['0'], r)
    | _ => digitsOf body
  if whole.isEmpty then throw .notJson
  let (fraction, rest) := readFraction rest
  let (exponent, rest) := readExponent rest
  if fraction.isEmpty && exponent.isEmpty then
    return (.int (← Number.whole (String.ofList (sign ++ whole))), rest)
  match Number.readDouble? (sign ++ whole ++ fraction ++ exponent) with
  | some d => return (.double d, rest)
  | none => throw .notJson

private def literals : List (List Char × Json) :=
  [("null".toList, .null), ("true".toList, .bool true), ("false".toList, .bool false),
    ("NaN".toList, .double .nan), ("Infinity".toList, .double (.infinite false)),
    ("-Infinity".toList, .double (.infinite true))]

private def readLiteral? (cs : List Char) : Option (Json × List Char) :=
  literals.findSome? fun (word, value) =>
    if word.isPrefixOf cs then some (value, cs.drop word.length) else none

def deepest : Nat := 975

mutual

private def readValue : Nat → Nat → List Char → Except Failure (Json × List Char)
  | 0, _, _ => throw .notJson
  | fuel + 1, room, cs =>
    match skipSpace cs with
    | '\x22' :: rest =>
      match readString? fuel [] rest with
      | some (s, rest) => pure (.text s, rest)
      | none => throw .notJson
    | '[' :: rest =>
      if room = 0 then throw (.nestedTooDeep "array")
      else
        match skipSpace rest with
        | ']' :: rest => pure (.list [], rest)
        | rest => readItems fuel (room - 1) [] rest
    | '\x7b' :: rest =>
      if room = 0 then throw (.nestedTooDeep "object")
      else
        match skipSpace rest with
        | '\x7d' :: rest => pure (.object [], rest)
        | rest => readFields fuel (room - 1) [] rest
    | rest =>
      match readLiteral? rest with
      | some found => pure found
      | none => readNumber rest

private def readItems : Nat → Nat → List Json → List Char → Except Failure (Json × List Char)
  | 0, _, _, _ => throw .notJson
  | fuel + 1, room, done, cs => do
    let (value, rest) ← readValue fuel room cs
    match skipSpace rest with
    | ',' :: rest => readItems fuel room (value :: done) rest
    | ']' :: rest => return (.list (value :: done).reverse, rest)
    | _ => throw .notJson

private def readFields : Nat → Nat → List (String × Json) → List Char →
    Except Failure (Json × List Char)
  | 0, _, _, _ => throw .notJson
  | fuel + 1, room, done, cs =>
    match skipSpace cs with
    | '\x22' :: rest =>
      match readString? fuel [] rest with
      | none => throw .notJson
      | some (name, rest) =>
        match skipSpace rest with
        | ':' :: rest => do
          let (value, rest) ← readValue fuel room rest
          match skipSpace rest with
          | ',' :: rest => readFields fuel room ((name, value) :: done) rest
          | '\x7d' :: rest =>
            return (.object (Fields.ofPairs ((name, value) :: done).reverse), rest)
          | _ => throw .notJson
        | _ => throw .notJson
    | _ => throw .notJson

end

/-- Each step down or along consumes at least half a character, so the fuel does not run out. An
integer of too many digits is a failure of its own, and so is a text that is nested too deep. -/
def read (source : String) : Except Failure Json := do
  let cs := source.toList
  let (value, rest) ← readValue (2 * cs.length + 2) deepest cs
  if (skipSpace rest).isEmpty then return value else throw .notJson

def read? (source : String) : Option Json :=
  (read source).toOption

end CallAtlas.Json
