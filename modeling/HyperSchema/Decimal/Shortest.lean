import HyperSchema.Decimal.Binary64

namespace HyperSchema.Decimal

/-- `digits · 10 ^ exponent`. -/
structure Scaled where
  digits : Nat
  exponent : Int
deriving DecidableEq, Repr

/-- Which of two equally close neighbours is taken. -/
inductive Tie where
  | toEven
  | up
deriving DecidableEq, Repr

/-- Compares `a · 10 ^ i` with `n · 2 ^ j`. -/
def compareScaled (a : Nat) (i : Int) (n : Nat) (j : Int) : Ordering :=
  compare (a * tenTo i.toNat * twoTo (-j).toNat) (n * twoTo j.toNat * tenTo (-i).toNat)

/-- Whether a decimal rounds to `m · 2 ^ e`. The gap below a power of two is half as wide, and the
ends belong to the interval when `m` is even. -/
def roundsTo (m : Nat) (e : Int) (d : Scaled) : Bool :=
  let low := if m = twoTo 52 ∧ -1074 < e then 4 * m - 1 else 4 * m - 2
  let atLow := compareScaled d.digits d.exponent low (e - 2)
  let atHigh := compareScaled d.digits d.exponent (4 * m + 2) (e - 2)
  let ends := m % 2 == 0
  (atLow == .gt || (ends && atLow == .eq)) && (atHigh == .lt || (ends && atHigh == .eq))

/-- Raises an estimate of the decimal exponent, at most `steps` times, while the value allows it. -/
def raiseExponent (m : Nat) (e : Int) : Nat → Int → Int
  | 0, k => k
  | steps + 1, k =>
    if compareScaled 1 (k + 1) m e == .gt then k else raiseExponent m e steps (k + 1)

/-- The decimal exponent of the leading digit of `m · 2 ^ e`. -/
def leadingExponent (m : Nat) (e : Int) : Int :=
  raiseExponent m e 4 ((((m.log2 : Int) + e) * 30103).fdiv 100000 - 2)

/-- The multiple of `10 ^ p` at or below `m · 2 ^ e`, as a count. -/
def gridFloor (m : Nat) (e p : Int) : Nat :=
  (m * twoTo e.toNat * tenTo (-p).toNat) / (twoTo (-e).toNat * tenTo p.toNat)

/-- The neighbour of the value on the grid of `10 ^ p` that rounds back to it, the nearer of two. -/
def onGrid? (tie : Tie) (m : Nat) (e p : Int) : Option Scaled :=
  let lo := gridFloor m e p
  let below : Scaled := ⟨lo, p⟩
  let above : Scaled := ⟨lo + 1, p⟩
  match roundsTo m e below, roundsTo m e above with
  | true, true =>
    match compareScaled (2 * lo + 1) p (2 * m) e with
    | .gt => some below
    | .lt => some above
    | .eq => some (if tie = .toEven ∧ lo % 2 = 0 then below else above)
  | true, false => some below
  | false, true => some above
  | false, false => none

def dropZeros (d : Scaled) : Nat → Scaled
  | 0 => d
  | n + 1 => if d.digits % 10 = 0 then dropZeros ⟨d.digits / 10, d.exponent + 1⟩ n else d

/-- The fewest digits that read back as `m · 2 ^ e`, the nearest of that length. -/
def shortest (tie : Tie) (m : Nat) (e : Int) : Scaled :=
  let k := leadingExponent m e
  let found := (List.range 17).findSome? fun (n : Nat) => onGrid? tie m e (k - (n : Nat))
  dropZeros (found.getD ⟨gridFloor m e (k - 17), k - 17⟩) 18

/-- Digits with a point `places` from the right, padded with zeros on either side. -/
def positional (d : Scaled) : String :=
  let digits := (toString d.digits).toList
  if 0 ≤ d.exponent then
    String.ofList (digits ++ List.replicate d.exponent.toNat '0')
  else
    let places := (-d.exponent).toNat
    let padded := List.replicate (places + 1 - digits.length) '0' ++ digits
    let whole := padded.length - places
    String.ofList (padded.take whole ++ '.' :: padded.drop whole)

/-- All digits written out, none more than needed to read the number back. -/
def Binary64.display : Binary64 → String
  | .nan => "NaN"
  | .infinity s => if s then "-inf" else "inf"
  | .finite s m e =>
    (if s then "-" else "") ++ if m = 0 then "0" else positional (shortest .up m e)

end HyperSchema.Decimal
