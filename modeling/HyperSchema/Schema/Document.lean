import HyperSchema.Hints
import HyperSchema.Json.Reader
import HyperSchema.Schema.Declaration
import HyperSchema.ValueType.Document

/-!
Schemas as JSON documents. A record is an object of named fields, or an array that gives the
fields in their order. Other members are passed over; a field given twice is refused. Only optional
fields may be null, and a missing field takes its default.
-/

namespace HyperSchema
open Json

namespace Document

/-- The fields of a record that are there, by name. -/
abbrev Fields := String → Option Json

def fields? (names : List String) : Json → Option Fields
  | .object members =>
    if names.any fun n => 1 < (valuesOf n members).length then none
    else some fun n => (valuesOf n members).head?
  | .array items =>
    if names.length < items.length then none else some fun n => (names.zip items).lookup n
  | _ => none

def Fields.required (f : Fields) (name : String) (read : Json → Option α) : Option α :=
  (f name).bind read

def Fields.orElse (f : Fields) (name : String) (default : α) (read : Json → Option α) : Option α :=
  match f name with
  | some j => read j
  | none => some default

def optional (read : Json → Option α) : Json → Option (Option α)
  | .null => some none
  | j => (read j).map some

def Fields.optional (f : Fields) (name : String) (read : Json → Option α) : Option (Option α) :=
  f.orElse name none (Document.optional read)

def Fields.string (f : Fields) (name : String) : Option String := f.orElse name "" string?

def Fields.flag (f : Fields) (name : String) : Option Bool := f.orElse name false bool?

def Fields.strings (f : Fields) (name : String) : Option (List String) :=
  f.orElse name [] (items? string?)

def natBelow? (bound : Nat) : Json → Option Nat
  | .integer n => if 0 ≤ n ∧ n < bound then some n.toNat else none
  | _ => none

def count? : Json → Option Nat := natBelow? UInt32.size

def size? : Json → Option Nat := natBelow? UInt64.size

/-- A map in ascending key order; of a key given twice the later value stays. -/
def map? (read : Json → Option α) : Json → Option (List (String × α))
  | .object members =>
    members.foldlM (fun map m => (read m.2).map fun a => insertByName m.1 a map) []
  | _ => none

/-- Reads a type at a given depth of the document. -/
def type? (nesting : Nat) (j : Json) : Option ValueType :=
  if j.isReadable && nesting + j.depth ≤ depthLimit then ValueType.ofJson? j else none

/-- The depth at which slots and links of a schema stand. -/
def memberDepth : Nat := 3

def method? (j : Json) : Option Method := (name? j).bind Method.ofName?

def operator? (j : Json) : Option Operator := (name? j).bind Operator.ofName?

def sourceKind? (j : Json) : Option SourceKind := (name? j).bind SourceKind.ofName?

def source? (j : Json) : Option SourceDeclaration := do
  let f ← fields? ["kind", "text"] j
  pure {
    kind := ← f.required "kind" sourceKind?
    text := ← f.required "text" string? }

def criterion? (j : Json) : Option CriterionDeclaration := do
  let f ← fields? ["referenceSlot", "source", "operator", "caseInsensitive"] j
  pure {
    referenceSlot := ← f.required "referenceSlot" string?
    source := ← f.required "source" source?
    operator := ← f.required "operator" operator?
    caseInsensitive := ← f.flag "caseInsensitive" }

def collection? (j : Json) : Option CollectionDeclaration := do
  let f ← fields? ["linkRelation", "limit", "and", "or"] j
  pure {
    linkRelation := ← f.optional "linkRelation" string?
    limit := ← f.optional "limit" count?
    and := ← f.orElse "and" [] (items? criterion?)
    or := ← f.orElse "or" [] (items? criterion?) }

def constraints? (j : Json) : Option Constraints := do
  let f ← fields? ["minimum", "exclusiveMinimum", "maximum", "exclusiveMaximum", "minLength",
    "maxLength", "minSize", "maxSize", "divisor", "disallowed"] j
  pure {
    minimum := ← f.optional "minimum" string?
    exclusiveMinimum := ← f.flag "exclusiveMinimum"
    maximum := ← f.optional "maximum" string?
    exclusiveMaximum := ← f.flag "exclusiveMaximum"
    minLength := ← f.optional "minLength" size?
    maxLength := ← f.optional "maxLength" size?
    minSize := ← f.optional "minSize" size?
    maxSize := ← f.optional "maxSize" size?
    divisor := ← f.optional "divisor" string?
    disallowed := ← f.strings "disallowed" }

def slot? (j : Json) : Option SlotDeclaration := do
  let f ← fields? ["name", "valueType", "title", "description", "aliases", "searchable", "default",
    "constraints", "collection", "linkBinding"] j
  pure {
    name := ← f.required "name" string?
    valueType := ← f.required "valueType" (type? memberDepth)
    title := ← f.string "title"
    description := ← f.string "description"
    aliases := ← f.strings "aliases"
    searchable := ← f.flag "searchable"
    default := ← f.optional "default" string?
    constraints := ← f.orElse "constraints" {} constraints?
    collection := ← f.optional "collection" collection?
    linkBinding := ← f.optional "linkBinding" string? }

def link? (j : Json) : Option LinkDeclaration := do
  let f ← fields? ["name", "relation", "method", "title", "description", "requestType",
    "responseType", "embedded", "bindings"] j
  pure {
    name := ← f.required "name" string?
    relation := ← f.required "relation" string?
    method := ← f.required "method" method?
    title := ← f.string "title"
    description := ← f.string "description"
    requestType := ← f.optional "requestType" (type? memberDepth)
    responseType := ← f.optional "responseType" (type? memberDepth)
    embedded := ← f.flag "embedded"
    bindings := ← f.orElse "bindings" [] (map? source?) }

def schema? (j : Json) : Option Schema := do
  let f ← fields? ["id", "version", "title", "description", "readOnly", "baseSchemaIds", "slots",
    "links", "keySlotNames", "comparableSlotNames", "tags"] j
  pure {
    id := ⟨← f.required "id" string?⟩
    version := ← f.orElse "version" 1 count?
    title := ← f.string "title"
    description := ← f.string "description"
    readOnly := ← f.flag "readOnly"
    bases := (← f.strings "baseSchemaIds").map SchemaId.mk
    slots := ← f.orElse "slots" [] (items? slot?)
    links := ← f.orElse "links" [] (items? link?)
    keySlotNames := Text.nameSet (← f.strings "keySlotNames")
    comparableSlotNames := ← f.strings "comparableSlotNames"
    tags := Text.nameSet (← f.strings "tags") }

def hints? (j : Json) : Option Hints := do
  let f ← fields? ["includedSlotNames", "excludedSlotNames", "embeddedLinkSlotNames",
    "queryParameters", "locale", "referrerUri"] j
  pure {
    includedSlotNames := ← f.strings "includedSlotNames"
    excludedSlotNames := ← f.strings "excludedSlotNames"
    embeddedLinkSlotNames := ← f.strings "embeddedLinkSlotNames"
    queryParameters := ← f.orElse "queryParameters" [] (map? string?)
    locale := ← f.optional "locale" string?
    referrerUri := ← f.optional "referrerUri" string? }

end Document

/-- Reads the text of a schema document. -/
def Schema.read? (text : String) : Option Schema := (Json.read? text).bind Document.schema?

end HyperSchema
