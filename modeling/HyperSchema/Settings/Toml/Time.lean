import HyperSchema.Calendar.Reader

namespace HyperSchema.Toml
open Calendar

structure TimeOfDay where
  hour : Nat
  minute : Nat
  second : Option Nat
  nano : Option Nat

def date? (cs : List Char) : Option (Date × List Char) := do
  let (year, cs) ← fixedNumber? 4 cs
  let cs ← expect? (· == '-') cs
  let (month, cs) ← fixedNumber? 2 cs
  let cs ← expect? (· == '-') cs
  let (day, cs) ← fixedNumber? 2 cs
  let date : Date := ⟨year, month, day⟩
  if date.isValid then pure (date, cs) else none

/-- Seconds may be left out, and a fraction with them. -/
def second? (cs : List Char) : Option ((Option Nat × Option Nat) × List Char) :=
  match cs with
  | ':' :: cs => do
    let (second, cs) ← fixedNumber? 2 cs
    let (nano, rest) ← fraction? cs
    if second ≤ 60 then
      pure ((some second, if rest.length = cs.length then none else some nano), rest)
    else none
  | cs => some ((none, none), cs)

def timeOfDay? (cs : List Char) : Option (TimeOfDay × List Char) := do
  let (hour, cs) ← fixedNumber? 2 cs
  let cs ← expect? (· == ':') cs
  let (minute, cs) ← fixedNumber? 2 cs
  let ((second, nano), cs) ← second? cs
  if hour < 24 ∧ minute < 60 then pure (⟨hour, minute, second, nano⟩, cs) else none

/-- The places of a fraction without the zeros at its end, but at least one. -/
def placesText (nano : Nat) : String :=
  let digits := ((padTo 9 nano).toList.reverse.dropWhile (· == '0')).reverse
  if digits.isEmpty then "0" else String.ofList digits

def TimeOfDay.display (t : TimeOfDay) : String :=
  padTo 2 t.hour ++ ":" ++ padTo 2 t.minute ++
    (t.second.map fun s => ":" ++ padTo 2 s).getD "" ++
    (t.nano.map fun n => "." ++ placesText n).getD ""

def dateText (d : Date) : String :=
  padTo 4 d.year.toNat ++ "-" ++ padTo 2 d.month ++ "-" ++ padTo 2 d.day

/-- The offset that ends a text: none, `Z`, or a sign with hours and minutes. -/
def offsetText? (cs : List Char) : Option String :=
  match cs with
  | [] => some ""
  | c :: _ =>
    if c = '\u2212' then none
    else match offset? cs with
      | some (seconds, []) =>
        if c = 'Z' ∨ c = 'z' then some "Z"
        else
          let minutes := seconds.natAbs / 60
          some ((if seconds < 0 then "-" else "+") ++ padTo 2 (minutes / 60) ++ ":" ++
            padTo 2 (minutes % 60))
      | _ => none

/-- A date, a time of day, or both with an offset or without, in its full form. -/
def timeText? (cs : List Char) : Option String :=
  match date? cs with
  | some (date, []) => some (dateText date)
  | some (date, cs) => do
    let cs ← expect? (fun c => c == 'T' || c == 't' || c == ' ') cs
    let (time, cs) ← timeOfDay? cs
    let offset ← offsetText? cs
    pure (dateText date ++ "T" ++ time.display ++ offset)
  | none =>
    match timeOfDay? cs with
    | some (time, []) => some time.display
    | _ => none

end HyperSchema.Toml
