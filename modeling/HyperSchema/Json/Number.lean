import HyperSchema.Json.Basic
import HyperSchema.Decimal.Literal

/-!
Number literals. What has a point or an exponent, or is too long for 64 bits, is a real that is read
with limited precision: as many digits from the left as 64 bits hold become a double, and one or
more roundings bring it to its power of ten.
-/

namespace HyperSchema.Json
open Decimal

/-- A whole part without leading zeros. -/
def isWholePart : List Char → Bool
  | [] => false
  | ['0'] => true
  | c :: _ => c != '0'

def ofReal (x : Binary64) : Json :=
  match x with
  | .finite .. => .real x
  | _ => .unreadable

/-- Appends digits to `n` while 64 bits hold the number, and gives how many are left over. -/
def appendDigits (n : Nat) : List Char → Nat × Nat
  | [] => (n, 0)
  | c :: cs =>
    let n' := 10 * n + (digit? c).getD 0
    if n' < UInt64.size then appendDigits n' cs else (n, cs.length + 1)

/-- The powers of ten that are doubles go up to this one. -/
def highestPower : Int := 308

/-- Scales by powers of ten that are doubles, rounding at each step. -/
def scaled (x : Binary64) (e : Int) : Binary64 :=
  if highestPower < e then if x.isZero then x else .infinity false
  else if -highestPower ≤ e then x.scaleByTen e
  else if x.isZero then x
  else scaled (x.scaleByTen (-highestPower)) (e + highestPower)
termination_by (-e).toNat
decreasing_by
  unfold highestPower at *
  omega

/-- An exponent beyond 32 bits is not applied: only a zero stays what it is below any power. -/
def withExponent (negative : Bool) (digits : Nat) (shift e : Int) : Binary64 :=
  if e.natAbs < Int32.maxValue.toInt + 1 then
    scaled (.ofRatio negative digits 1) (shift + e)
  else if digits = 0 ∨ e < 0 then .zero negative
  else .infinity negative

/-- The real with these digits before and after the point and this exponent. -/
def realOf (negative : Bool) (whole places : List Char) (e : Int) : Json :=
  let (n, unread) := appendDigits 0 whole
  let (n, unused) := appendDigits n places
  ofReal (withExponent negative n (unread - (places.length - unused : Nat)) e)

def lowestInteger : Int := lowestLong
def highestInteger : Int := UInt64.size - 1

/-- A literal without point and exponent stays an integer while 64 bits hold it. The zero of the
negative integers is a real. -/
def wholeNumber (negative : Bool) (digits : List Char) : Json :=
  let value := Binary64.signed negative ((natOfDigits? digits).getD 0)
  if negative && value == 0 then .real (Binary64.zero true)
  else if lowestInteger ≤ value && value ≤ highestInteger then .integer value
  else realOf negative digits [] 0

/-- Reads a number literal. -/
def number? (cs : List Char) : Option Json :=
  let (negative, cs) := match cs with
    | '-' :: r => (true, r)
    | r => (false, r)
  let whole := cs.takeWhile isDigit
  if !isWholePart whole then none
  else match cs.dropWhile isDigit with
    | [] => some (wholeNumber negative whole)
    | '.' :: r =>
      let places := r.takeWhile isDigit
      if places.isEmpty then none
      else (exponent? (r.dropWhile isDigit)).map (realOf negative whole places)
    | r => (exponent? r).map (realOf negative whole [])

end HyperSchema.Json
