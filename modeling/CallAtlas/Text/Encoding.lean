import CallAtlas.Failure

/-! Text as bytes. Which encoding some bytes are in shows in the zeros among the first of them, as
long as a text begins with characters of ASCII. -/
namespace CallAtlas.Text

/-- Units of one, two or four bytes; longer ones begin with the high byte or with the low one. -/
inductive Encoding
  | utf8
  | utf16 (high : Bool)
  | utf32 (high : Bool)
deriving DecidableEq, Inhabited

namespace Encoding

def name : Encoding → String
  | utf8 => "utf-8"
  | utf16 high => if high then "utf-16-be" else "utf-16-le"
  | utf32 high => if high then "utf-32-be" else "utf-32-le"

def ofBytes : List Nat → Encoding
  | [0, _] => utf16 true
  | [_, 0] => utf16 false
  | 0 :: b :: _ :: _ :: _ => if b = 0 then utf32 true else utf16 true
  | _ :: 0 :: c :: d :: _ => if c = 0 ∧ d = 0 then utf32 false else utf16 false
  | _ => utf8

private def unit (high : Bool) (bytes : List Nat) : Nat :=
  (if high then bytes else bytes.reverse).foldl (fun n b => 256 * n + b) 0

private def isHighHalf (n : Nat) : Bool :=
  decide (0xD800 ≤ n ∧ n < 0xDC00)

private def isLowHalf (n : Nat) : Bool :=
  decide (0xDC00 ≤ n ∧ n < 0xE000)

private def character (n : Nat) : Char :=
  if isHighHalf n || isLowHalf n then Half.ofUnit n else Char.ofNat n

private def decode16 (high : Bool) (position : Nat) : List Nat → Except Failure (List Char)
  | [] => pure []
  | [a] => throw (.undecodable (utf16 high).name position [a] "truncated data")
  | [a, b] => pure [character (unit high [a, b])]
  | [a, b, c] => do
    return character (unit high [a, b]) :: (← decode16 high (position + 2) [c])
  | a :: b :: c :: d :: rest => do
    let first := unit high [a, b]
    let second := unit high [c, d]
    if isHighHalf first && isLowHalf second then
      return Char.ofNat (0x10000 + (first - 0xD800) * 0x400 + (second - 0xDC00))
        :: (← decode16 high (position + 4) rest)
    else return character first :: (← decode16 high (position + 2) (c :: d :: rest))

private def decode32 (high : Bool) (position : Nat) : List Nat → Except Failure (List Char)
  | [] => pure []
  | a :: b :: c :: d :: rest => do
    let n := unit high [a, b, c, d]
    if 0x10FFFF < n then
      throw (.undecodable (utf32 high).name position [a, b, c, d]
        "code point not in range(0x110000)")
    else return character n :: (← decode32 high (position + 4) rest)
  | bytes => throw (.undecodable (utf32 high).name position bytes "truncated data")

def reread (text : String) : Except Failure String :=
  let bytes := text.toUTF8.toList.map UInt8.toNat
  match ofBytes bytes with
  | utf8 => pure (match text.toList with
      | '\ufeff' :: cs => String.ofList cs
      | _ => text)
  | utf16 high => String.ofList <$> decode16 high 0 bytes
  | utf32 high => String.ofList <$> decode32 high 0 bytes

def checkWritable (text : String) : Except Failure Unit :=
  match Half.run? text.toList with
  | some (position, units) => throw (.unencodable position units)
  | none => pure ()

end Encoding
end CallAtlas.Text
