import CallAtlas.Number.Extended
import CallAtlas.Text.Basic

/-! Doubles as a store writes and reads them. It computes with 64 bits of significand throughout, so
the last of fifteen digits, or the last bit of what is read, may be off by one. -/
namespace CallAtlas.Store.Numeral

open Extended (ofNat tenToThe)

private def power (n : Nat) : Extended :=
  .ofDouble (Double.ofDecimal false 1 n)

abbrev Scale := Extended × Nat

private def climb (v : Extended) (places : Nat) : Nat → Scale → Scale
  | 0, s => s
  | fuel + 1, (scale, e) =>
    let next := (power places).mul scale
    if next.atMost v ∧ e ≤ 350 then climb v places fuel (next, e + places) else (scale, e)

private def lift (bound : Extended) (places : Nat) : Nat → Extended × Int → Extended × Int
  | 0, r => r
  | fuel + 1, (v, e) =>
    if bound.atMost v then (v, e) else lift bound places fuel (v.mul (power places), e - places)

private def half : Extended :=
  let product := (Extended.ofDouble (.ofDecimal false 5 (-5))).ratio
  let factor := (Extended.ofDouble (.ofDecimal false 1 (-10))).ratio
  .ofDouble (.ofRatio false (product.1 * factor.1) (product.2 * factor.2))

private def normalized (v : Extended) : Extended × Int :=
  let (scale, e) := climb v 1 20 (climb v 10 20 (climb v 100 20 (ofNat 1, 0)))
  let start := (v.div scale, (e : Int))
  let small := Extended.ofDouble (.ofDecimal false 1 (-8))
  let (v, e) := lift (ofNat 1) 1 10 (lift small 8 50 start)
  let v := v.add half
  if (ofNat 10).atMost v then (v.mul (.ofDouble (.ofDecimal false 1 (-1))), e + 1) else (v, e)

private def digits : Nat → Extended → List Char
  | 0, _ => []
  | n + 1, v => Nat.digitChar v.floor :: digits n (v.fraction.mul (ofNat 10))

private def exponentText (e : Int) : List Char :=
  let size := Nat.toDigits 10 e.natAbs
  (if e < 0 then '-' else '+') :: (if size.length < 2 then '0' :: size else size)

private def withoutZeros (cs : List Char) : List Char :=
  let kept := Text.dropTrailing (· == '0') cs
  if kept.getLast? = some '.' then kept ++ ['0'] else kept

/-- Fifteen digits at most; positional from `10^-4` to below `10^15`. -/
private def size (v : Extended) : List Char :=
  let (v, e) := normalized v
  let all := digits 26 v
  if e < -4 ∨ 14 < e then withoutZeros (all.take 1 ++ '.' :: (all.drop 1).take 14)
    ++ 'e' :: exponentText e
  else if e < 0 then
    let zeros := (-e - 1).toNat
    withoutZeros ('0' :: '.' :: List.replicate zeros '0' ++ all.take ((14 - e).toNat - zeros))
  else withoutZeros (all.take (e.toNat + 1) ++ '.' :: (all.drop (e.toNat + 1)).take (14 - e.toNat))

/-- Zero has no sign. -/
def write : Double → String
  | .nan => ""
  | .infinite negative => if negative then "-Inf" else "Inf"
  | .finite negative m e =>
    if m = 0 then "0.0"
    else
      let size := size (.ofDouble (.finite false m e))
      String.ofList (if negative then '-' :: size else size)

/-- A decimal as it is read: its digits as far as they fit, and the power of ten by which they are
off. -/
structure Decimal where
  negative : Bool
  digits : Nat := 0
  exponent : Int := 0
  isWhole : Bool := true
deriving DecidableEq, Inhabited

/-- The largest number that a digit can still be added to. -/
private def roomy : Nat := 922337203685477579

private def digitOf (c : Char) : Nat :=
  c.toNat - 48

private def addWhole (d : Decimal) (c : Char) : Decimal :=
  if d.digits < roomy then { d with digits := 10 * d.digits + digitOf c }
  else { d with exponent := d.exponent + 1 }

private def addFraction (d : Decimal) (c : Char) : Decimal :=
  if d.digits < roomy then
    { d with digits := 10 * d.digits + digitOf c, exponent := d.exponent - 1 }
  else d

/-- The exponent behind its mark, counted up to ten thousand. -/
private def exponent? (cs : List Char) : Option Int :=
  let (negative, digits) := match cs with
    | '-' :: cs => (true, cs)
    | '+' :: cs => (false, cs)
    | cs => (false, cs)
  if digits.isEmpty || !digits.all Char.isDigit then none
  else
    let n : Nat := digits.foldl (fun n c => if n < 10000 then 10 * n + digitOf c else 10000) 0
    some (if negative then -(n : Int) else n)

def read? (cs : List Char) : Option Decimal := do
  let (negative, cs) := match cs with
    | '-' :: cs => (true, cs)
    | '+' :: cs => (false, cs)
    | cs => (false, cs)
  let whole := cs.takeWhile Char.isDigit
  let d := whole.foldl addWhole { negative }
  let rest := cs.dropWhile Char.isDigit
  let (fraction, rest, pointed) := match rest with
    | '.' :: rest => (rest.takeWhile Char.isDigit, rest.dropWhile Char.isDigit, true)
    | rest => ([], rest, false)
  if whole.isEmpty && fraction.isEmpty then none
  let d := { fraction.foldl addFraction d with isWhole := !pointed && rest.isEmpty }
  match rest with
  | [] => return d
  | mark :: rest =>
    if mark == 'e' || mark == 'E' then
      return { d with exponent := d.exponent + (← exponent? rest) }
    else none

private def largest : Nat := 9223372036854775807

private def raised : Nat → Nat → Nat × Nat
  | s, 0 => (s, 0)
  | s, n + 1 => if largest / 10 ≤ s then (s, n + 1) else raised (10 * s) n

private def lowered : Nat → Nat → Nat × Nat
  | s, 0 => (s, 0)
  | s, n + 1 => if s % 10 = 0 then lowered (s / 10) n else (s, n + 1)

private def quotient (negative : Bool) (x y : Double) : Double :=
  match x, y with
  | .finite _ m e, .finite _ k f =>
    let (a, b) := (Extended.mk m e).ratio
    let (c, d) := (Extended.mk k f).ratio
    .ofRatio negative (a * d) (b * c)
  | x, _ => x

private def product (negative : Bool) (x y : Double) : Double :=
  match x, y with
  | .finite _ m e, .finite _ k f =>
    let (a, b) := (Extended.mk m e).ratio
    let (c, d) := (Extended.mk k f).ratio
    .ofRatio negative (a * c) (b * d)
  | x, _ => x

/-- The double that a decimal is read as. Exponents beyond 307 are taken in two steps. -/
def Decimal.toDouble (d : Decimal) : Double :=
  if d.digits = 0 then .finite d.negative 0 Double.minExponent
  else
    let n := d.exponent.natAbs
    let up := decide (0 < d.exponent)
    let (s, n) := if up then raised d.digits n else lowered d.digits n
    let outer := Double.ofDecimal false 1 308
    if n = 0 then .ofRatio d.negative s 1
    else if n ≤ 307 then
      (if up then (ofNat s).mul (tenToThe n) else (ofNat s).div (tenToThe n)).toDouble d.negative
    else if n < 342 then
      let scale := tenToThe (n - 308)
      if up then product d.negative (((ofNat s).mul scale).toDouble d.negative) outer
      else quotient d.negative (((ofNat s).div scale).toDouble d.negative) outer
    else if up then .infinite d.negative
    else .finite d.negative 0 Double.minExponent

end CallAtlas.Store.Numeral
