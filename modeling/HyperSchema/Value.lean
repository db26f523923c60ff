import HyperSchema.Calendar.Moment
import HyperSchema.Decimal.Shortest
import HyperSchema.Hints
import HyperSchema.Json.Printer
import HyperSchema.ValueType

namespace HyperSchema
open Decimal Calendar

mutual
inductive Value where
  | boolean (b : Bool)
  | integer (n : Int32)
  | long (n : Int64)
  | double (x : Binary64)
  | text (s : String)
  | date (m : Moment)
  | link (s : String)
  | choice (s : String)
  | list (items : List Value)
  /-- A handle on a model. Two handles are the same when their identities are. -/
  | model (identity : Nat) (content : Model)
  | native (json : Json)

/-- The content of a model: its schema, the values of its slots and the hints it was asked for
with. -/
structure Model where
  schema : SchemaId
  uri : Option String
  slots : List (String × Value)
  hints : Hints
end

namespace Value

def kind : Value → String
  | boolean _ => "Boolean"
  | integer _ => "Integer"
  | long _ => "Long"
  | double _ => "Double"
  | text _ => "Text"
  | date _ => "Date"
  | link _ => "Link"
  | choice _ => "Choice"
  | list _ => "List"
  | model .. => "Model"
  | native _ => "Native"

def asInt? : Value → Option Int
  | integer n => some n.toInt
  | long n => some n.toInt
  | _ => none

def asDouble? : Value → Option Binary64
  | integer n => some (Binary64.ofInt n.toInt)
  | long n => some (Binary64.ofInt n.toInt)
  | double x => some x
  | _ => none

def asText? : Value → Option String
  | text s | link s | choice s => some s
  | _ => none

def asModel? : Value → Option Model
  | model _ m => some m
  | _ => none

def asList? : Value → Option (List Value)
  | list items => some items
  | _ => none

/-- Two integers compare exactly, any other pair of numbers as doubles. -/
def compareNumeric? (a b : Value) : Option Ordering :=
  match a.asInt?, b.asInt? with
  | some m, some n => some (compare m n)
  | _, _ =>
    match a.asDouble?, b.asDouble? with
    | some x, some y => x.compare? y
    | _, _ => none

mutual
/-- Numbers are equal across kinds when they compare as equal; all else only within its kind. -/
def beq : Value → Value → Bool
  | boolean a, boolean b => a == b
  | text a, text b => a == b
  | link a, link b => a == b
  | choice a, choice b => a == b
  | date a, date b => a == b
  | list a, list b => beqItems a b
  | model i _, model j _ => i == j
  | native a, native b => a == b
  | a, b => a.compareNumeric? b == some .eq

def beqItems : List Value → List Value → Bool
  | [], [] => true
  | a :: as, b :: bs => beq a b && beqItems as bs
  | _, _ => false
end

instance : BEq Value := ⟨beq⟩

mutual
def display : Value → String
  | boolean b => if b then "true" else "false"
  | integer n => toString n.toInt
  | long n => toString n.toInt
  | double x => x.display
  | text s | link s | choice s => s
  | date m => m.display
  | list items => "[" ++ Text.joinWith ", " (displayItems items) ++ "]"
  | model _ m => "<" ++ m.uri.getD m.schema.text ++ ">"
  | native json => json.print

def displayItems : List Value → List String
  | [] => []
  | v :: vs => display v :: displayItems vs
end

end Value

namespace Model

def slotValue? (m : Model) (name : String) : Option Value := m.slots.lookup name

/-- Puts a value in place of the slot's present one, or at the end. -/
def insertSlot (name : String) (value : Value) : List (String × Value) → List (String × Value)
  | [] => [(name, value)]
  | (n, v) :: rest =>
    if n = name then (name, value) :: rest else (n, v) :: insertSlot name value rest

def withSlot (m : Model) (name : String) (value : Value) : Model :=
  { m with slots := insertSlot name value m.slots }

def removeSlot (m : Model) (name : String) : Model :=
  { m with slots := m.slots.filter fun s => s.1 != name }

end Model

end HyperSchema
