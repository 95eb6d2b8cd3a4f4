import CallAtlas.Json.Basic

namespace CallAtlas.Json

private def unit (n : Nat) : List Char :=
  '\\' :: 'u' :: Text.hex 4 n

/-- Characters beyond ASCII are written as UTF-16 units. -/
private def escaped (c : Char) : List Char :=
  if c == '\x22' then ['\\', '\x22']
  else if c == '\\' then ['\\', '\\']
  else if c == '\n' then ['\\', 'n']
  else if c == '\r' then ['\\', 'r']
  else if c == '\t' then ['\\', 't']
  else if c == '\x08' then ['\\', 'b']
  else if c == '\x0c' then ['\\', 'f']
  else if 32 ≤ c.toNat ∧ c.toNat < 127 then [c]
  else if c.toNat < 0x10000 then unit c.toNat
  else
    match Text.Half.unit? c with
    | some half => unit half
    | none =>
      let n := c.toNat - 0x10000
      unit (0xD800 + n / 0x400) ++ unit (0xDC00 + n % 0x400)

def string (s : String) : String :=
  String.ofList ('\x22' :: s.toList.flatMap escaped ++ ['\x22'])

private def atom : Double → String
  | .nan => "NaN"
  | .infinite negative => if negative then "-Infinity" else "Infinity"
  | d => d.text

mutual

def line : Json → String
  | null => "null"
  | bool b => if b then "true" else "false"
  | int n => toString n
  | double d => atom d
  | text s => string s
  | list items => "[" ++ ", ".intercalate (lineItems items) ++ "]"
  | object fields => "\x7b" ++ ", ".intercalate (lineFields fields) ++ "\x7d"

def lineItems : List Json → List String
  | [] => []
  | x :: xs => line x :: lineItems xs

def lineFields : List (String × Json) → List String
  | [] => []
  | (name, x) :: fs => (string name ++ ": " ++ line x) :: lineFields fs

end

private def newline (depth : Nat) : String :=
  String.ofList ('\n' :: List.replicate (2 * depth) ' ')

private def block (depth : Nat) (left right : String) (members : List String) : String :=
  if members.isEmpty then left ++ right
  else
    left ++ newline (depth + 1) ++ ("," ++ newline (depth + 1)).intercalate members
      ++ newline depth ++ right

mutual

def indentedAt (depth : Nat) : Json → String
  | list items => block depth "[" "]" (indentedItems (depth + 1) items)
  | object fields => block depth "\x7b" "\x7d" (indentedFields (depth + 1) fields)
  | value => value.line

def indentedItems (depth : Nat) : List Json → List String
  | [] => []
  | x :: xs => indentedAt depth x :: indentedItems depth xs

def indentedFields (depth : Nat) : List (String × Json) → List String
  | [] => []
  | (name, x) :: fs =>
    (string name ++ ": " ++ indentedAt depth x) :: indentedFields depth fs

end

def indented (value : Json) : String :=
  value.indentedAt 0

end CallAtlas.Json
