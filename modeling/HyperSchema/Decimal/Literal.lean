import HyperSchema.Decimal.Binary64
import HyperSchema.Decimal.Integer

namespace HyperSchema.Decimal

/-- Why a text is no double. -/
inductive LiteralFault where
  | empty
  | invalid
deriving DecidableEq, Repr

def LiteralFault.message : LiteralFault → String
  | .empty => "cannot parse float from empty string"
  | .invalid => "invalid float literal"

def isDigit (c : Char) : Bool := (digit? c).isSome

def splitSign : List Char → Bool × List Char
  | '-' :: cs => (true, cs)
  | '+' :: cs => (false, cs)
  | cs => (false, cs)

def lowerAscii (cs : List Char) : List Char := cs.map Char.toLower

/-- What follows the digits: nothing, or `e` and a signed run of digits. -/
def exponent? : List Char → Option Int
  | [] => some 0
  | c :: cs =>
    if c = 'e' ∨ c = 'E' then
      let (negative, ds) := splitSign cs
      if ds.isEmpty then none
      else (natOfDigits? ds).map (Binary64.signed negative)
    else none

/-- Digits with an optional point, at least one digit beside it, and an optional exponent. -/
def unsigned? (negative : Bool) (cs : List Char) : Option Binary64 :=
  let whole := cs.takeWhile isDigit
  let afterWhole := cs.dropWhile isDigit
  let (places, rest) := match afterWhole with
    | '.' :: r => (r.takeWhile isDigit, r.dropWhile isDigit)
    | r => ([], r)
  if whole.isEmpty && places.isEmpty then none
  else do
    let digits ← natOfDigits? (whole ++ places)
    let e ← exponent? rest
    pure (Binary64.ofDecimal negative digits (e - places.length))

def readDouble (cs : List Char) : Except LiteralFault Binary64 :=
  if cs.isEmpty then .error .empty
  else
    let (negative, body) := splitSign cs
    let word := String.ofList (lowerAscii body)
    if word = "inf" ∨ word = "infinity" then .ok (.infinity negative)
    else if word = "nan" then .ok .nan
    else match unsigned? negative body with
      | some x => .ok x
      | none => .error .invalid

end HyperSchema.Decimal
