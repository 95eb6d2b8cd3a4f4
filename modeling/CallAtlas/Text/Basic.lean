namespace CallAtlas.Text

/-- Sets of code points are sorted lists of closed ranges. -/
def within (ranges : List (Nat × Nat)) (n : Nat) : Bool :=
  ranges.any fun (lo, hi) => decide (lo ≤ n ∧ n ≤ hi)

/-- The blanks that trimming removes; zero-width spaces are not among them. -/
def isBlank (c : Char) : Bool :=
  let n := c.toNat
  decide (9 ≤ n ∧ n ≤ 13) || decide (28 ≤ n ∧ n ≤ 32) || n == 0x85 || n == 0xA0 || n == 0x1680
    || decide (0x2000 ≤ n ∧ n ≤ 0x200A) || n == 0x2028 || n == 0x2029 || n == 0x202F
    || n == 0x205F || n == 0x3000

def dropTrailing (p : Char → Bool) (cs : List Char) : List Char :=
  (cs.reverse.dropWhile p).reverse

def strip (p : Char → Bool) (cs : List Char) : List Char :=
  dropTrailing p (cs.dropWhile p)

def trim (cs : List Char) : List Char :=
  strip isBlank cs

/-- The blanks that may stand around a number. The information separators are not among them. -/
def isMargin (c : Char) : Bool :=
  isBlank c && !decide (28 ≤ c.toNat ∧ c.toNat ≤ 31)

/-- Where the decimal digits of each script begin; all ten follow one another. -/
private def zeros : List Nat :=
  [0x30, 0x660, 0x6F0, 0x7C0, 0x966, 0x9E6, 0xA66, 0xAE6, 0xB66, 0xBE6, 0xC66, 0xCE6, 0xD66,
   0xDE6, 0xE50, 0xED0, 0xF20, 0x1040, 0x1090, 0x17E0, 0x1810, 0x1946, 0x19D0, 0x1A80, 0x1A90,
   0x1B50, 0x1BB0, 0x1C40, 0x1C50, 0xA620, 0xA8D0, 0xA900, 0xA9D0, 0xA9F0, 0xAA50, 0xABF0,
   0xFF10, 0x104A0, 0x10D30, 0x11066, 0x110F0, 0x11136, 0x111D0, 0x112F0, 0x11450, 0x114D0,
   0x11650, 0x116C0, 0x11730, 0x118E0, 0x11950, 0x11C50, 0x11D50, 0x11DA0, 0x16A60, 0x16AC0,
   0x16B50, 0x1D7CE, 0x1D7D8, 0x1D7E2, 0x1D7EC, 0x1D7F6, 0x1E140, 0x1E2F0, 0x1E950, 0x1FBF0]

def digitValue? (c : Char) : Option Nat :=
  (zeros.find? fun z => decide (z ≤ c.toNat ∧ c.toNat < z + 10)).map (c.toNat - ·)

def isDigit (c : Char) : Bool :=
  (digitValue? c).isSome

def digitsValue (cs : List Char) : Nat :=
  cs.foldl (fun n c => 10 * n + (digitValue? c).getD 0) 0

def hexValue? (c : Char) : Option Nat :=
  if c.isDigit then some (c.toNat - 48)
  else if 'a' ≤ c ∧ c ≤ 'f' then some (c.toNat - 87)
  else if 'A' ≤ c ∧ c ≤ 'F' then some (c.toNat - 55)
  else none

def parts (divides : α → Bool) : List α → List (List α)
  | [] => [[]]
  | c :: cs =>
    if divides c then [] :: parts divides cs
    else
      match parts divides cs with
      | [] => [[c]]
      | first :: rest => (c :: first) :: rest

def words (divides : Char → Bool) (cs : List Char) : List (List Char) :=
  (parts divides cs).filter (!·.isEmpty)

namespace Half

def first : Nat := 0xD800

def place : Nat := 0xA5800

def total : Nat := 0x800

/-- A half of a surrogate pair that stands alone is no character. It is kept as a code point that no
character is assigned to. -/
def ofUnit (n : Nat) : Char :=
  Char.ofNat (place + (n - first))

def unit? (c : Char) : Option Nat :=
  if place ≤ c.toNat ∧ c.toNat < place + total then some (c.toNat - place + first) else none

def run? (cs : List Char) : Option (Nat × List Nat) :=
  let rest := cs.dropWhile fun c => (unit? c).isNone
  if rest.isEmpty then none
  else some (cs.length - rest.length, (rest.takeWhile fun c => (unit? c).isSome).filterMap unit?)

end Half
end CallAtlas.Text
