import HyperSchema.Json.Basic
import HyperSchema.Decimal.Shortest
import HyperSchema.Text.Quoted

namespace HyperSchema.Json
open Decimal

def escapedChar (c : Char) : String :=
  if c == '"' then "\\\""
  else if c == '\\' then "\\\\"
  else if c == '\n' then "\\n"
  else if c == '\r' then "\\r"
  else if c == '\t' then "\\t"
  else if c.toNat == 8 then "\\b"
  else if c.toNat == 12 then "\\f"
  else if c.toNat < 0x20 then
    "\\u00" ++ (if c.toNat < 0x10 then "0" else "") ++ Text.hexDigits c.toNat
  else c.toString

def quoted (s : String) : String := "\"" ++ String.join (s.toList.map escapedChar) ++ "\""

/-- Decimal exponents of the leading digit that are written without an exponent mark. -/
def plainFrom : Int := -5
def plainBelow : Int := 16

/-- The fewest digits that read the number back, always with a point or an exponent. -/
def realText : Binary64 → String
  | .finite s m e =>
    (if s then "-" else "") ++
      if m = 0 then "0.0"
      else
        let d := shortest .toEven m e
        let digits := toString d.digits
        let leading := d.exponent + digits.length - 1
        if plainFrom ≤ leading ∧ leading < plainBelow then
          positional d ++ if 0 ≤ d.exponent then ".0" else ""
        else
          let mantissa := match digits.toList with
            | [c] => c.toString
            | c :: cs => String.ofList (c :: '.' :: cs)
            | [] => ""
          mantissa ++ "e" ++ (if leading < 0 then "-" else "+") ++ toString leading.natAbs
  | _ => "null"

mutual
/-- Compact text. -/
def print : Json → String
  | .null => "null"
  | .bool b => if b then "true" else "false"
  | .integer n => toString n
  | .real x => realText x
  | .string s => quoted s
  | .array items => "[" ++ ",".intercalate (printItems items) ++ "]"
  | .object members => "\x7b" ++ ",".intercalate (printMembers members) ++ "\x7d"
  | .unreadable => "null"

def printItems : List Json → List String
  | [] => []
  | j :: js => print j :: printItems js

def printMembers : List (String × Json) → List String
  | [] => []
  | (k, j) :: ms => (quoted k ++ ":" ++ print j) :: printMembers ms
end

end HyperSchema.Json
