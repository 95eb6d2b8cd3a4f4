/-! Binary floating point of double width, as exact values: a finite double is
`±significand · 2^exponent`. Rounding goes to the nearest double, a tie to the even significand. -/
namespace CallAtlas

inductive Double
  | finite (negative : Bool) (significand : Nat) (exponent : Int)
  | infinite (negative : Bool)
  | nan
deriving DecidableEq, Inhabited

namespace Double

def minExponent : Int := -1074
def maxExponent : Int := 971
def precision : Nat := 53

def twoTo (n : Nat) : Nat := Nat.pow 2 n
def tenTo (n : Nat) : Nat := Nat.pow 10 n

def scaled (num den : Nat) (exponent : Int) : Nat × Nat :=
  if exponent < 0 then (num * twoTo (-exponent).toNat, den) else (num, den * twoTo exponent.toNat)

/-- The natural number nearest to `num / den`; a half goes to the even neighbour. -/
def roundedQuotient (num den : Nat) : Nat :=
  let q := num / den
  let r := num % den
  if 2 * r < den then q else if den < 2 * r then q + 1 else if q % 2 = 0 then q else q + 1

/-- The exponent at which `num / den` has a significand of full precision, or the least exponent
there is. -/
def exponentOf (num den : Nat) : Int :=
  let guess : Int := (num.log2 : Int) - den.log2 - 52
  let (n, d) := scaled num den guess
  let sharp := if n / d < twoTo (precision - 1) then guess - 1 else guess
  max minExponent sharp

def ofRatio (negative : Bool) (num den : Nat) : Double :=
  if num = 0 then finite negative 0 minExponent
  else
    let e := exponentOf num den
    let (n, d) := scaled num den e
    let q := roundedQuotient n d
    let (q, e) := if q = twoTo precision then (twoTo (precision - 1), e + 1) else (q, e)
    if maxExponent < e then infinite negative else finite negative q e

/-- The double nearest to `±digits · 10^exponent`. Values far outside the range are told by their
size alone, so that no huge power is computed. -/
def ofDecimal (negative : Bool) (digits : Nat) (exponent : Int) : Double :=
  if digits = 0 then finite negative 0 minExponent
  else
    if 400 < exponent then infinite negative
    else if exponent + (digits.log2 / 3 : Nat) < -400 then finite negative 0 minExponent
    else if exponent < 0 then ofRatio negative digits (tenTo (-exponent).toNat)
    else ofRatio negative (digits * tenTo exponent.toNat) 1

def truncate? : Double → Option Int
  | finite negative m e =>
    let size : Nat := if e < 0 then m / twoTo (-e).toNat else m * twoTo e.toNat
    some (if negative then -(size : Int) else size)
  | _ => none

def isWhole : Double → Bool
  | finite _ m e => if e < 0 then m % twoTo (-e).toNat == 0 else true
  | _ => false

def isZero : Double → Bool
  | finite _ m _ => m == 0
  | _ => false

private def ratio (negative : Bool) (m : Nat) (e : Int) : Int × Nat :=
  let sign : Int := if negative then -1 else 1
  if e < 0 then (sign * m, twoTo (-e).toNat) else (sign * m * twoTo e.toNat, 1)

def compare? : Double → Double → Option Ordering
  | nan, _ => none
  | _, nan => none
  | infinite a, infinite b => some (if a == b then .eq else if a then .lt else .gt)
  | infinite a, finite .. => some (if a then .lt else .gt)
  | finite .., infinite b => some (if b then .gt else .lt)
  | finite a m e, finite b k f =>
    let (p, q) := ratio a m e
    let (r, s) := ratio b k f
    some (compare (p * s) (r * q))

/-- An integer as an exact value; for comparison only, so it may exceed every double. -/
def exactly (n : Int) : Double :=
  finite (decide (n < 0)) n.natAbs 0

def nearest : Double → Double
  | finite negative m e =>
    let (p, q) := ratio negative m e
    ofRatio negative p.natAbs q
  | d => d

def minus : Double → Double → Double
  | finite a m e, finite b k f =>
    let (p, q) := ratio a m e
    let (r, s) := ratio b k f
    let d := p * s - r * q
    ofRatio (decide (d < 0)) d.natAbs (q * s)
  | infinite a, infinite b => if a == b then nan else infinite a
  | infinite a, finite .. => infinite a
  | finite .., infinite b => infinite !b
  | _, _ => nan

def wholeHalf : Double → Double
  | finite negative m e =>
    ((finite negative m (e - 1)).truncate?.map fun n =>
      ofRatio (decide (n < 0)) n.natAbs 1).getD nan
  | _ => nan

end Double
end CallAtlas
