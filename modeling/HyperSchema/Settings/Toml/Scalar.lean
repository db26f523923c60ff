import HyperSchema.Settings.Entry
import HyperSchema.Settings.Toml.Text
import HyperSchema.Settings.Toml.Time
import HyperSchema.Text.Pieces

namespace HyperSchema.Toml
open Decimal

/-- Digits with single underscores between them. -/
def grouped? (isDigitChar : Char → Bool) (cs : List Char) : Option (List Char) :=
  let parts := Text.splitChars '_' cs
  if parts.all fun p => !p.isEmpty && p.all isDigitChar then some parts.flatten else none

def inLongRange (n : Int) : Bool := lowestLong ≤ n && n ≤ highestLong

def radixInteger? (radix : Nat) (cs : List Char) : Option Entry := do
  let isRadixDigit c := (Json.hexDigit? c).any (· < radix)
  let digits ← grouped? isRadixDigit cs
  let n := digits.foldl (fun n c => radix * n + (Json.hexDigit? c).getD 0) 0
  if inLongRange n then some (.integer n) else none

def wholePart? (cs : List Char) : Option (List Char) :=
  (grouped? isDigit cs).filter Json.isWholePart

/-- A float with these digits before and after its point. It may not be beyond all doubles. -/
def float? (negative : Bool) (whole places : List Char) (exponent : List Char) : Option Entry := do
  let e ← match exponent with
    | [] => some 0
    | c :: more =>
      if c = 'e' ∨ c = 'E' then
        let (below, ds) := splitSign more
        (grouped? isDigit ds).bind fun ds => (natOfDigits? ds).map (Binary64.signed below)
      else none
  let n ← natOfDigits? (whole ++ places)
  match Binary64.ofDecimal negative n (e - places.length) with
  | .finite s m e => some (.real (.finite s m e))
  | _ => none

/-- A number without prefix: an integer, or a float with a fraction or an exponent. -/
def decimalNumber? (negative : Bool) (cs : List Char) : Option Entry := do
  let isWhole c := isDigit c || c == '_'
  let whole ← wholePart? (cs.takeWhile isWhole)
  match cs.dropWhile isWhole with
  | [] => do
    let n ← natOfDigits? whole
    let value := Binary64.signed negative n
    if inLongRange value then some (.integer value) else none
  | '.' :: rest => do
    let places ← grouped? isDigit (rest.takeWhile isWhole)
    float? negative whole places (rest.dropWhile isWhole)
  | rest => float? negative whole [] rest

def number? (cs : List Char) : Option Entry :=
  match cs with
  | '0' :: 'x' :: ds => radixInteger? 16 ds
  | '0' :: 'o' :: ds => radixInteger? 8 ds
  | '0' :: 'b' :: ds => radixInteger? 2 ds
  | _ =>
    let (negative, body) := splitSign cs
    match String.ofList body with
    | "inf" => some (.real (.infinity negative))
    | "nan" => some (.real .nan)
    | _ => decimalNumber? negative body

/-- Digits before a dash or a colon begin a date or a time. -/
def beginsTime (cs : List Char) : Bool :=
  match cs.takeWhile isDigit, cs.dropWhile isDigit with
  | _ :: _, c :: _ => c == '-' || c == ':'
  | _, _ => false

def isWordChar (c : Char) : Bool :=
  c.isAlphanum || c == '_' || c == '+' || c == '-' || c == '.' || c == ':'

/-- A word with what follows it. A space may stand between the date and the time of day. -/
def word (cs : List Char) : List Char × List Char :=
  let first := cs.takeWhile isWordChar
  match cs.dropWhile isWordChar with
  | ' ' :: c :: rest =>
    if beginsTime first && first.length = 10 && isDigit c then
      (first ++ ' ' :: (c :: rest).takeWhile isWordChar, (c :: rest).dropWhile isWordChar)
    else (first, ' ' :: c :: rest)
  | rest => (first, rest)

/-- A flag, a number or a time. -/
def scalar? (cs : List Char) : Option (Entry × List Char) :=
  let (word, rest) := word cs
  match String.ofList word with
  | "true" => some (.flag true, rest)
  | "false" => some (.flag false, rest)
  | _ =>
    if beginsTime word then (timeText? word).map fun s => (.text s, rest)
    else (number? word).map (·, rest)

end HyperSchema.Toml
