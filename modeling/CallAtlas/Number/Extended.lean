import CallAtlas.Number.Double

/-! Binary floating point with significands of 64 bits and exponents without bounds: a value is
`significand · 2^exponent`. Every operation rounds to the nearest value, a tie to the even
significand. -/
namespace CallAtlas

structure Extended where
  significand : Nat
  exponent : Int
deriving DecidableEq, Inhabited

namespace Extended

open Double (scaled roundedQuotient twoTo tenTo)

def precision : Nat := 64

def round (num den : Nat) (exponent : Int) : Extended :=
  if num = 0 then ⟨0, 0⟩
  else
    let guess : Int := (num.log2 : Int) - den.log2 - (precision - 1)
    let (n, d) := scaled num den guess
    let e := if n / d < twoTo (precision - 1) then guess - 1 else guess
    let (n, d) := scaled num den e
    let q := roundedQuotient n d
    if q = twoTo precision then ⟨twoTo (precision - 1), e + 1 + exponent⟩ else ⟨q, e + exponent⟩

def ofNat (n : Nat) : Extended :=
  round n 1 0

def ofDouble : Double → Extended
  | .finite _ m e => round m 1 e
  | _ => ⟨0, 0⟩

def ratio (x : Extended) : Nat × Nat :=
  if x.exponent < 0 then (x.significand, twoTo (-x.exponent).toNat)
  else (x.significand * twoTo x.exponent.toNat, 1)

def toDouble (negative : Bool) (x : Extended) : Double :=
  let (n, d) := x.ratio
  Double.ofRatio negative n d

def mul (x y : Extended) : Extended :=
  round (x.significand * y.significand) 1 (x.exponent + y.exponent)

def div (x y : Extended) : Extended :=
  round x.significand y.significand (x.exponent - y.exponent)

def add (x y : Extended) : Extended :=
  let (a, b) := x.ratio
  let (c, d) := y.ratio
  round (a * d + c * b) (b * d) 0

def floor (x : Extended) : Nat :=
  let (n, d) := x.ratio
  n / d

def fraction (x : Extended) : Extended :=
  let (n, d) := x.ratio
  round (n % d) d 0

def atMost (x y : Extended) : Bool :=
  let (a, b) := x.ratio
  let (c, d) := y.ratio
  decide (a * d ≤ c * b)

/-- Powers of ten by repeated squaring; `fuel` bounds the number of binary digits of `n`. -/
private def powerOfTen : Nat → Nat → Extended → Extended → Extended
  | 0, _, _, r => r
  | fuel + 1, n, x, r =>
    let r := if n % 2 = 1 then r.mul x else r
    if n / 2 = 0 then r else powerOfTen fuel (n / 2) (x.mul x) r

def tenToThe (n : Nat) : Extended :=
  powerOfTen (n + 1) n (ofNat 10) (ofNat 1)

end Extended
end CallAtlas
