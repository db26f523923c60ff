import HyperSchema.Calendar.Reader
import HyperSchema.Decimal.Literal
import HyperSchema.Json.Reader
import HyperSchema.Pattern.Parser
import HyperSchema.Text.Blank
import HyperSchema.Value

namespace HyperSchema
open Decimal

/-- Text that is no value of the type asked for. -/
structure CoercionError where
  text : String
  target : ValueType
  reason : String
deriving DecidableEq, Repr

def CoercionError.message (e : CoercionError) : String :=
  "Cannot coerce '" ++ e.text ++ "' to " ++ e.target.display ++ ": " ++ e.reason

/-- A way to read and write values as text, and to read patterns. -/
structure TextForm where
  parse : String → ValueType → Except CoercionError Value
  format : Value → String
  /-- Reads a pattern, with whether the case of letters is to be ignored. -/
  pattern? : String → Bool → Option Regex := Regex.compile?

namespace Coercion

abbrev Parse := String → ValueType → Except CoercionError Value

/-- What stands between the brackets, without the blanks around the brackets and inside them. -/
def bracketed? (text : String) : Option (List Char) :=
  match Text.trimChars text.toList with
  | '[' :: rest => if rest.getLast? = some ']' then some (Text.trimChars rest.dropLast) else none
  | _ => none

/-- Elements stand between brackets, split at every comma; an element is no list itself. -/
def readList (parse : Parse) (text : String) (element : ValueType) :
    Except CoercionError (List Value) :=
  match bracketed? text with
  | none => .error ⟨text, .list element, "expected a bracketed list such as [a, b]"⟩
  | some content =>
    if element.element?.isSome then .error ⟨text, .list element, "nested lists are not supported"⟩
    else if content.isEmpty then .ok []
    else (Text.splitChars ',' content).mapM fun item =>
      parse (String.ofList (Text.trimChars item)) element

/-- Reads a value that is no list. Except for plain text, blanks around it do not count. What is
wrong with text that is no JSON value `jsonFault` says. -/
def readScalar (jsonFault : String → String) (text : String) (target : ValueType) :
    Except CoercionError Value :=
  let chars := Text.trimChars text.toList
  let trimmed := String.ofList chars
  let fail reason := .error ⟨text, target, reason⟩
  match target with
  | .boolean =>
    let word := String.ofList (lowerAscii chars)
    if word = "true" then .ok (.boolean true)
    else if word = "false" then .ok (.boolean false)
    else fail "expected true or false"
  | .integer =>
    match readInteger Int32.minValue.toInt Int32.maxValue.toInt chars with
    | .ok n => .ok (.integer (Int32.ofInt n))
    | .error e => fail e.message
  | .long =>
    match readInteger lowestLong highestLong chars with
    | .ok n => .ok (.long (Int64.ofInt n))
    | .error e => fail e.message
  | .double =>
    match readDouble chars with
    | .ok x => .ok (.double x)
    | .error e => fail e.message
  | .text => .ok (.text text)
  | .date =>
    match Calendar.readMoment? chars with
    | some m => .ok (.date m)
    | none => fail "expected an RFC 3339 timestamp or YYYY-MM-DD"
  | .link => if chars.isEmpty then fail "a link cannot be empty" else .ok (.link trimmed)
  | .choice options =>
    if options.isEmpty || options.contains trimmed then .ok (.choice trimmed)
    else fail ("expected one of " ++ Text.joinWith ", " options)
  | .model _ => fail "models have no text form"
  | .list _ => fail "nested lists are not supported"
  | .native _ =>
    match Json.readValue? trimmed with
    | some j => .ok (.native j)
    | none => fail (jsonFault trimmed)

end Coercion

/-- The usual text of every type. The reader of JSON has its own words for what it refuses. -/
def TextForm.standardWith (jsonFault : String → String) : TextForm where
  parse text target :=
    match target with
    | .list element => (Coercion.readList (Coercion.readScalar jsonFault) text element).map .list
    | t => Coercion.readScalar jsonFault text t
  format := Value.display

def TextForm.standard : TextForm := .standardWith fun _ => "expected a JSON value"

/-- Reads text in a given form. The brackets of a list are read here, its elements by the form. -/
def coerce (form : TextForm) (text : String) (target : ValueType) : Except CoercionError Value :=
  match target with
  | .list element => (Coercion.readList form.parse text element).map .list
  | t => form.parse text t

end HyperSchema
