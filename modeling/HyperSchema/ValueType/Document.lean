import HyperSchema.ValueType
import HyperSchema.Json.Basic

/-!
Value types as JSON: an object whose member `type` names the kind, beside the members that the kind
carries.
-/

namespace HyperSchema

namespace Json

/-- The only value of a member; none when the member is missing or repeated. -/
def only? : List α → Option α
  | [a] => some a
  | _ => none

def string? : Json → Option String
  | .string s => some s
  | _ => none

def bool? : Json → Option Bool
  | .bool b => some b
  | _ => none

def items? (f : Json → Option α) : Json → Option (List α)
  | .array items => items.mapM f
  | _ => none

/-- One of several names: as a string, or as the only key of an object, over null. -/
def name? : Json → Option String
  | .string s => some s
  | .object [(s, .null)] => some s
  | _ => none

end Json

namespace ValueType
open Json

/-- The names of the kinds in documents, by rank. -/
def kindNames : List String :=
  ["boolean", "integer", "long", "double", "text", "date", "link", "choice", "model", "list",
    "native"]

def toJson : ValueType → Json
  | boolean => .object [("type", .string "boolean")]
  | integer => .object [("type", .string "integer")]
  | long => .object [("type", .string "long")]
  | double => .object [("type", .string "double")]
  | text => .object [("type", .string "text")]
  | date => .object [("type", .string "date")]
  | link => .object [("type", .string "link")]
  | choice options => .object [("type", .string "choice"), ("options", ofStrings options)]
  | model schema => .object [("type", .string "model"), ("schema", .string schema.text)]
  | list element => .object [("type", .string "list"), ("element", element.toJson)]
  | native name => .object [("type", .string "native"), ("name", .string name)]

def kindName? : Json → Option String
  | .string s => some s
  | .integer n => if 0 ≤ n then kindNames[n.toNat]? else none
  | _ => none

/-- The type of a kind, given the members it may carry; each must be there exactly once if the kind
carries it. -/
def ofParts? (kind : String) (options schema name : List Json) (element : List (Option ValueType)) :
    Option ValueType :=
  match kind with
  | "boolean" => some boolean
  | "integer" => some integer
  | "long" => some long
  | "double" => some double
  | "text" => some text
  | "date" => some date
  | "link" => some link
  | "choice" => (only? options).bind fun j => (items? string? j).map choice
  | "model" => (only? schema).bind fun j => (string? j).map fun s => model ⟨s⟩
  | "list" => (only? element).bind fun t => t.map list
  | "native" => (only? name).bind fun j => (string? j).map native
  | _ => none

/-- Reads a type given as a list: the kind, then what the kind carries. -/
def ofItems? (kind : String) (rest : List Json) (element : List (Option ValueType)) :
    Option ValueType :=
  match ofParts? kind rest rest rest element with
  | some t => if t.rank < 7 && !rest.isEmpty then none else some t
  | none => none

mutual
/-- Reads a type whose kind may also be given by its rank. -/
def ofNested? : Json → Option ValueType
  | .object members =>
    (only? (valuesOf "type" members)).bind fun tag =>
      (kindName? tag).bind fun kind =>
        ofParts? kind (valuesOf "options" members) (valuesOf "schema" members)
          (valuesOf "name" members) (elements members)
  | .array items =>
    match items with
    | [] => none
    | tag :: rest => (kindName? tag).bind fun kind => ofItems? kind rest (elementItems rest)
  | _ => none

def elements : List (String × Json) → List (Option ValueType)
  | [] => []
  | (k, j) :: ms => if k = "element" then ofNested? j :: elements ms else elements ms

def elementItems : List Json → List (Option ValueType)
  | [] => []
  | j :: js => ofNested? j :: elementItems js
end

/-- Whether the kind of the outermost type is given by name. -/
def namesKind : Json → Bool
  | .object members => (valuesOf "type" members).all fun j => (string? j).isSome
  | .array (.string _ :: _) => true
  | _ => false

/-- Reads a type document. Other members are passed over, in any order. -/
def ofJson? (j : Json) : Option ValueType := if namesKind j then ofNested? j else none

end ValueType

end HyperSchema
