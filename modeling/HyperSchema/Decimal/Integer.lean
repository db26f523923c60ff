namespace HyperSchema.Decimal

def twoTo (n : Nat) : Nat := Nat.pow 2 n

def tenTo (n : Nat) : Nat := Nat.pow 10 n

/-- The integers of 64 bits. -/
def lowestLong : Int := Int64.minValue.toInt
def highestLong : Int := Int64.maxValue.toInt

/-- The remainder of a division of integers of 64 bits, with the sign of the dividend. There is none
by zero, nor where the quotient has more than 64 bits. -/
def remainder? (n d : Int) : Option Int :=
  if d = 0 ∨ highestLong < n.tdiv d then none else some (n.tmod d)

/-- Why a text is no integer between two limits. -/
inductive IntegerFault where
  | empty
  | badDigit
  | tooLarge
  | tooSmall
deriving DecidableEq, Repr

def IntegerFault.message : IntegerFault → String
  | .empty => "cannot parse integer from empty string"
  | .badDigit => "invalid digit found in string"
  | .tooLarge => "number too large to fit in target type"
  | .tooSmall => "number too small to fit in target type"

def digit? (c : Char) : Option Nat :=
  if '0' ≤ c ∧ c ≤ '9' then some (c.toNat - '0'.toNat) else none

/-- Reads digits from the left. The first character that is no digit, or leaves the limits,
decides. -/
def readDigits (negative : Bool) (lo hi : Int) : Int → List Char → Except IntegerFault Int
  | n, [] => .ok n
  | n, c :: cs =>
    match digit? c with
    | none => .error .badDigit
    | some d =>
      let n' := if negative then 10 * n - d else 10 * n + d
      if n' < lo then .error .tooSmall
      else if hi < n' then .error .tooLarge
      else readDigits negative lo hi n' cs

def readInteger (lo hi : Int) : List Char → Except IntegerFault Int
  | [] => .error .empty
  | ['+'] | ['-'] => .error .badDigit
  | '+' :: cs => readDigits false lo hi 0 cs
  | '-' :: cs => readDigits true lo hi 0 cs
  | cs => readDigits false lo hi 0 cs

/-- The value of a run of digits, `none` when another character occurs. -/
def natOfDigits? (cs : List Char) : Option Nat :=
  cs.foldlM (fun n c => (digit? c).map (10 * n + ·)) 0

end HyperSchema.Decimal
