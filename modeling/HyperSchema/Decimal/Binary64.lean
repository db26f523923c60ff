import HyperSchema.Decimal.Integer

namespace HyperSchema.Decimal

/-- Double-precision numbers. A finite one is `±mantissa · 2 ^ exponent` with
`mantissa < 2 ^ 53` and `-1074 ≤ exponent ≤ 971`. -/
inductive Binary64 where
  | nan
  | infinity (negative : Bool)
  | finite (negative : Bool) (mantissa : Nat) (exponent : Int)
deriving DecidableEq, Repr

namespace Binary64

def zero (negative : Bool) : Binary64 := .finite negative 0 (-1074)

def signed (negative : Bool) (n : Nat) : Int := if negative then -n else n

/-- The value in units of `2 ^ -1074`; infinity takes the first power of two beyond all doubles. -/
def units? : Binary64 → Option Int
  | .nan => none
  | .infinity s => some (signed s (twoTo 2098))
  | .finite s m e => some (signed s (m * twoTo (e + 1074).toNat))

/-- Neither order nor equality holds of a value that is no number. -/
def compare? (x y : Binary64) : Option Ordering :=
  match x.units?, y.units? with
  | some a, some b => some (compare a b)
  | _, _ => none

def isZero (x : Binary64) : Bool := x.units? == some 0

/-- Whether `x` leaves no remainder on division by `d`. -/
def isMultipleOf (x d : Binary64) : Bool :=
  match x, d with
  | .finite .., .finite .. =>
    match x.units?, d.units? with
    | some a, some b => b != 0 && a % b == 0
    | _, _ => false
  | .finite .., .infinity _ => x.isZero
  | _, _ => false

/-- `num / den` to the nearest double, ties to even. -/
def ofRatio (negative : Bool) (num den : Nat) : Binary64 :=
  if num = 0 then zero negative else
  let gap : Int := (num.log2 : Int) - den.log2
  let below := num * twoTo (-gap).toNat < den * twoTo gap.toNat
  let e := max (-1074) (gap - 52 - if below then 1 else 0)
  let n := num * twoTo (-e).toNat
  let d := den * twoTo e.toNat
  let q := n / d
  let r := n % d
  let q := if d < 2 * r || (2 * r == d && q % 2 == 1) then q + 1 else q
  let (m, e) := if q = twoTo 53 then (twoTo 52, e + 1) else (q, e)
  if 971 < e then .infinity negative else .finite negative m e

def ofInt (n : Int) : Binary64 := ofRatio (n < 0) n.natAbs 1

/-- `digits · 10 ^ exponent` to the nearest double. Exponents beyond all doubles are not
expanded. -/
def ofDecimal (negative : Bool) (digits : Nat) (exponent : Int) : Binary64 :=
  if digits = 0 then zero negative
  else if 400 < exponent then .infinity negative
  else if exponent < -400 - digits.log2 then zero negative
  else ofRatio negative (digits * tenTo exponent.toNat) (tenTo (-exponent).toNat)

/-- The product with a power of ten, or the quotient when the exponent is negative. The power is
itself rounded to a double first. -/
def scaleByTen (x : Binary64) (exponent : Int) : Binary64 :=
  match x, ofRatio false (tenTo exponent.natAbs) 1 with
  | .finite s m e, .finite _ n f =>
    if 0 ≤ exponent then
      let g := e + f
      ofRatio s (m * n * twoTo g.toNat) (twoTo (-g).toNat)
    else
      let g := e - f
      ofRatio s (m * twoTo g.toNat) (n * twoTo (-g).toNat)
  | _, _ => x

end Binary64

end HyperSchema.Decimal
