import HyperSchema.Calendar.Moment
import HyperSchema.Decimal.Literal
import HyperSchema.Text.Blank

namespace HyperSchema.Calendar
open HyperSchema.Decimal

/-- A number of exactly `n` digits and what follows it. -/
def fixedNumber? (n : Nat) (cs : List Char) : Option (Nat × List Char) :=
  if (cs.take n).length = n then (natOfDigits? (cs.take n)).map (·, cs.drop n) else none

/-- A number of one to `width` digits and what follows it. -/
def shortNumber? (width : Nat) (cs : List Char) : Option (Nat × List Char) :=
  let digits := (cs.take width).takeWhile isDigit
  if digits.isEmpty then none else (natOfDigits? digits).map (·, cs.drop digits.length)

def expect? (p : Char → Bool) : List Char → Option (List Char)
  | c :: cs => if p c then some cs else none
  | [] => none

/-- A fraction of a second in nanoseconds; digits after the ninth are cut. -/
def fraction? : List Char → Option (Nat × List Char)
  | '.' :: cs =>
    let digits := cs.takeWhile isDigit
    if digits.isEmpty then none
    else do
      let nine := digits.take 9
      let n ← natOfDigits? nine
      pure (n * tenTo (9 - nine.length), cs.dropWhile isDigit)
  | cs => some (0, cs)

/-- `Z`, or a sign with hours and minutes, less than a day; in seconds. -/
def offset? : List Char → Option (Int × List Char)
  | [] => none
  | c :: cs =>
    if c = 'Z' ∨ c = 'z' then some (0, cs)
    else if c = '+' ∨ c = '-' ∨ c = '\u2212' then do
      let (hours, cs) ← fixedNumber? 2 cs
      let cs ← expect? (· == ':') cs
      let (minutes, cs) ← fixedNumber? 2 cs
      if minutes < 60 ∧ hours < 24 then
        some (signed (c != '+') ((hours * 60 + minutes) * 60), cs)
      else none
    else none
where
  signed (negative : Bool) (n : Nat) : Int := Binary64.signed negative n

/-- A full timestamp: date, time of day and offset. -/
def timestamp? (cs : List Char) : Option Moment := do
  let (year, cs) ← fixedNumber? 4 cs
  let cs ← expect? (· == '-') cs
  let (month, cs) ← fixedNumber? 2 cs
  let cs ← expect? (· == '-') cs
  let (day, cs) ← fixedNumber? 2 cs
  let cs ← expect? (fun c => c == 'T' || c == 't' || c == ' ') cs
  let (hour, cs) ← fixedNumber? 2 cs
  let cs ← expect? (· == ':') cs
  let (minute, cs) ← fixedNumber? 2 cs
  let cs ← expect? (· == ':') cs
  let (second, cs) ← fixedNumber? 2 cs
  let (nano, cs) ← fraction? cs
  let (offset, cs) ← offset? cs
  let date : Date := ⟨year, month, day⟩
  if cs.isEmpty && date.isValid && hour < 24 && minute < 60 && second ≤ 60 then
    let leap := second / 60
    let ofDay := hour * 3600 + minute * 60 + (second - leap)
    pure (Moment.shiftBy ⟨date.toDays, ofDay, nano + leap * 1000000000⟩ offset)
  else none

/-- A year of up to four digits, or of any number of digits behind a sign. -/
def year? (cs : List Char) : Option (Int × List Char) :=
  match cs with
  | '-' :: r => (shortNumber? r.length r).map fun (n, r) => (-(n : Int), r)
  | '+' :: r => (shortNumber? r.length r).map fun (n, r) => ((n : Int), r)
  | r => (shortNumber? 4 r).map fun (n, r) => ((n : Int), r)

/-- A bare date, read as its first instant; blanks may precede each number. -/
def plainDate? (cs : List Char) : Option Moment := do
  let (year, cs) ← year? (cs.dropWhile Text.isBlank)
  let cs ← expect? (· == '-') cs
  let (month, cs) ← shortNumber? 2 (cs.dropWhile Text.isBlank)
  let cs ← expect? (· == '-') cs
  let (day, cs) ← shortNumber? 2 (cs.dropWhile Text.isBlank)
  let date : Date := ⟨year, month, day⟩
  if cs.isEmpty && date.isValid then pure ⟨date.toDays, 0, 0⟩ else none

def readMoment? (cs : List Char) : Option Moment := timestamp? cs <|> plainDate? cs

end HyperSchema.Calendar
