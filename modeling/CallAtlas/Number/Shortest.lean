import CallAtlas.Number.Double

namespace CallAtlas.Double

structure Decimal where
  digits : Nat
  exponent : Int
deriving DecidableEq

/-- Twice the value and the ends of its rounding interval, over one denominator. The interval
below a power of two is half as wide. -/
private def interval (m : Nat) (e : Int) : Nat × Nat × Nat × Nat :=
  let narrow := decide (m = twoTo (precision - 1) ∧ minExponent < e)
  let low := if narrow then 4 * m - 1 else 4 * m - 2
  let k : Nat := if e < 0 then 1 else twoTo e.toNat
  let den : Nat := if e < 0 then 4 * twoTo (-e).toNat else 4
  (low * k, 4 * m * k, (4 * m + 2) * k, den)

/-- The nearer of the two neighbours of the value on the grid of step `10^exponent`, if it lies in
the rounding interval; the ends belong to the interval of an even significand. -/
private def onGrid (m : Nat) (e : Int) (exponent : Int) : Option Decimal :=
  let (low, mid, high, den) := interval m e
  let num := if exponent < 0 then mid * tenTo (-exponent).toNat else mid
  let low := if exponent < 0 then low * tenTo (-exponent).toNat else low
  let high := if exponent < 0 then high * tenTo (-exponent).toNat else high
  let den := if exponent < 0 then den else den * tenTo exponent.toNat
  let inside (d : Nat) : Bool :=
    if m % 2 = 0 then decide (low ≤ d * den ∧ d * den ≤ high)
    else decide (low < d * den ∧ d * den < high)
  let floor := num / den
  let nearer := roundedQuotient num den
  let other := if nearer = floor then floor + 1 else floor
  if nearer ≠ 0 ∧ inside nearer then some ⟨nearer, exponent⟩
  else if other ≠ 0 ∧ inside other then some ⟨other, exponent⟩
  else none

private def leadingPlace (m : Nat) (e : Int) : Int :=
  let num := if e < 0 then m else m * twoTo e.toNat
  let den := if e < 0 then twoTo (-e).toNat else 1
  let rec settle : Nat → Int → Int
    | 0, p => p
    | fuel + 1, p =>
      let reached := if p < 0 then den ≤ num * tenTo (-p).toNat else den * tenTo p.toNat ≤ num
      if reached then p else settle fuel (p - 1)
  let guess : Int := (((num.log2 : Int) - den.log2) * 30103).fdiv 100000 + 1
  settle 4 guess

/-- Fewest digits first: the first grid with a point in the rounding interval wins. -/
def shortest (m : Nat) (e : Int) : Decimal :=
  let top := leadingPlace m e
  let tries := (List.range 18).map fun (n : Nat) => onGrid m e (top - (n : Int) + 1)
  (tries.findSome? id).getD ⟨m, 0⟩

private def Decimal.normal (d : Decimal) : List Char × Int :=
  let cs := Nat.toDigits 10 d.digits
  ((cs.reverse.dropWhile (· == '0')).reverse, d.exponent + cs.length - 1)

private def exponentText (e : Int) : List Char :=
  let size := Nat.toDigits 10 e.natAbs
  (if e < 0 then '-' else '+') :: (if size.length < 2 then '0' :: size else size)

def exponentFrom : Int := 16

/-- With an exponent of at least two digits where the first digit is too far from the point, and
with at least one digit after the point otherwise. -/
private def Decimal.written (d : Decimal) : List Char :=
  let (cs, place) := d.normal
  if -4 ≤ place ∧ place < 0 then '0' :: '.' :: List.replicate (-place - 1).toNat '0' ++ cs
  else if 0 ≤ place ∧ place < exponentFrom then
    let whole := place.toNat + 1
    let cs := cs ++ List.replicate (whole - cs.length) '0'
    let rest := cs.drop whole
    cs.take whole ++ '.' :: (if rest.isEmpty then ['0'] else rest)
  else
    let rest := cs.drop 1
    cs.take 1 ++ (if rest.isEmpty then [] else '.' :: rest) ++ 'e' :: exponentText place

def text : Double → String
  | nan => "nan"
  | infinite negative => if negative then "-inf" else "inf"
  | finite negative m e =>
    let size := if m = 0 then ['0', '.', '0'] else (shortest m e).written
    String.ofList (if negative then '-' :: size else size)

end CallAtlas.Double
