namespace HyperSchema.Calendar

/-- A day of the proleptic Gregorian calendar. -/
structure Date where
  year : Int
  month : Nat
  day : Nat
deriving DecidableEq, Repr

def isLeapYear (y : Int) : Bool := y % 4 == 0 && (y % 100 != 0 || y % 400 == 0)

def daysInMonth (y : Int) (m : Nat) : Nat :=
  if m = 2 then (if isLeapYear y then 29 else 28)
  else if m = 4 ∨ m = 6 ∨ m = 9 ∨ m = 11 then 30
  else 31

def firstYear : Int := -262143
def lastYear : Int := 262142

def Date.isValid (d : Date) : Bool :=
  firstYear ≤ d.year && d.year ≤ lastYear && 1 ≤ d.month && d.month ≤ 12 &&
    1 ≤ d.day && d.day ≤ daysInMonth d.year d.month

/-- Days since 1970-01-01. The year is taken to begin in March, so that the leap day ends it. -/
def Date.toDays (d : Date) : Int :=
  let y := if d.month ≤ 2 then d.year - 1 else d.year
  let era := y / 400
  let yearOfEra := y % 400
  let month : Int := if d.month ≤ 2 then d.month + 9 else d.month - 3
  let dayOfYear := (153 * month + 2) / 5 + d.day - 1
  let dayOfEra := yearOfEra * 365 + yearOfEra / 4 - yearOfEra / 100 + dayOfYear
  era * 146097 + dayOfEra - 719468

def Date.ofDays (days : Int) : Date :=
  let z := days + 719468
  let era := z / 146097
  let dayOfEra := z % 146097
  let yearOfEra := (dayOfEra - dayOfEra / 1460 + dayOfEra / 36524 - dayOfEra / 146096) / 365
  let dayOfYear := dayOfEra - (365 * yearOfEra + yearOfEra / 4 - yearOfEra / 100)
  let month := (5 * dayOfYear + 2) / 153
  let day := dayOfYear - (153 * month + 2) / 5 + 1
  let m := if month < 10 then month + 3 else month - 9
  let y := yearOfEra + era * 400
  ⟨if m ≤ 2 then y + 1 else y, m.toNat, day.toNat⟩

/-- A point in universal time. Within a leap second the nanoseconds run from `10 ^ 9` on, and the
second stays the one before it. -/
structure Moment where
  /-- Days since 1970-01-01. -/
  day : Int
  second : Nat
  nano : Nat
deriving DecidableEq, Repr

/-- Moves a local reading to universal time, given the offset in seconds. -/
def Moment.shiftBy (m : Moment) (offset : Int) : Moment :=
  let total := (m.second : Int) - offset
  ⟨m.day + total / 86400, (total % 86400).toNat, m.nano⟩

def padTo (width n : Nat) : String :=
  let digits := toString n
  String.ofList (List.replicate (width - digits.length) '0') ++ digits

/-- Years outside of four digits carry a sign. -/
def yearText (y : Int) : String :=
  if 0 ≤ y ∧ y ≤ 9999 then padTo 4 y.toNat
  else (if y < 0 then "-" else "+") ++ padTo 4 y.natAbs

/-- None, three, six or nine places, the fewest that lose nothing. -/
def fractionText (nano : Nat) : String :=
  if nano = 0 then ""
  else if nano % 1000000 = 0 then "." ++ padTo 3 (nano / 1000000)
  else if nano % 1000 = 0 then "." ++ padTo 6 (nano / 1000)
  else "." ++ padTo 9 nano

def Moment.display (m : Moment) : String :=
  let d := Date.ofDays m.day
  let leap := m.nano / 1000000000
  yearText d.year ++ "-" ++ padTo 2 d.month ++ "-" ++ padTo 2 d.day ++ "T" ++
    padTo 2 (m.second / 3600) ++ ":" ++ padTo 2 (m.second / 60 % 60) ++ ":" ++
    padTo 2 (m.second % 60 + leap) ++ fractionText (m.nano % 1000000000) ++ "Z"

end HyperSchema.Calendar
