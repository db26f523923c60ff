import HyperSchema.Hints
import HyperSchema.Schema.Declaration
import HyperSchema.ValueType.Document

namespace HyperSchema
open Json

def SourceDeclaration.toJson (s : SourceDeclaration) : Json :=
  .object [("kind", .string s.kind.name), ("text", .string s.text)]

def CriterionDeclaration.toJson (c : CriterionDeclaration) : Json :=
  .object [
    ("referenceSlot", .string c.referenceSlot),
    ("source", c.source.toJson),
    ("operator", .string c.operator.name),
    ("caseInsensitive", .bool c.caseInsensitive)]

def CollectionDeclaration.toJson (c : CollectionDeclaration) : Json :=
  .object [
    ("linkRelation", ofOption .string c.linkRelation),
    ("limit", ofOption ofNat c.limit),
    ("and", .array (c.and.map (·.toJson))),
    ("or", .array (c.or.map (·.toJson)))]

def Constraints.toJson (c : Constraints) : Json :=
  .object [
    ("minimum", ofOption .string c.minimum),
    ("exclusiveMinimum", .bool c.exclusiveMinimum),
    ("maximum", ofOption .string c.maximum),
    ("exclusiveMaximum", .bool c.exclusiveMaximum),
    ("minLength", ofOption ofNat c.minLength),
    ("maxLength", ofOption ofNat c.maxLength),
    ("minSize", ofOption ofNat c.minSize),
    ("maxSize", ofOption ofNat c.maxSize),
    ("divisor", ofOption .string c.divisor),
    ("disallowed", ofStrings c.disallowed)]

def SlotDeclaration.toJson (d : SlotDeclaration) : Json :=
  .object [
    ("name", .string d.name),
    ("valueType", d.valueType.toJson),
    ("title", .string d.title),
    ("description", .string d.description),
    ("aliases", ofStrings d.aliases),
    ("searchable", .bool d.searchable),
    ("default", ofOption .string d.default),
    ("constraints", d.constraints.toJson),
    ("collection", ofOption CollectionDeclaration.toJson d.collection),
    ("linkBinding", ofOption .string d.linkBinding)]

def LinkDeclaration.toJson (d : LinkDeclaration) : Json :=
  .object [
    ("name", .string d.name),
    ("relation", .string d.relation),
    ("method", .string d.method.name),
    ("title", .string d.title),
    ("description", .string d.description),
    ("requestType", ofOption ValueType.toJson d.requestType),
    ("responseType", ofOption ValueType.toJson d.responseType),
    ("embedded", .bool d.embedded),
    ("bindings", .object (d.bindings.map fun (name, source) => (name, source.toJson)))]

def Schema.toJson (s : Schema) : Json :=
  .object [
    ("id", .string s.id.text),
    ("version", ofNat s.version),
    ("title", .string s.title),
    ("description", .string s.description),
    ("readOnly", .bool s.readOnly),
    ("baseSchemaIds", ofStrings (s.bases.map (·.text))),
    ("slots", .array (s.slots.map (·.toJson))),
    ("links", .array (s.links.map (·.toJson))),
    ("keySlotNames", ofStrings s.keySlotNames),
    ("comparableSlotNames", ofStrings s.comparableSlotNames),
    ("tags", ofStrings s.tags)]

def Hints.toJson (h : Hints) : Json :=
  .object [
    ("includedSlotNames", ofStrings h.includedSlotNames),
    ("excludedSlotNames", ofStrings h.excludedSlotNames),
    ("embeddedLinkSlotNames", ofStrings h.embeddedLinkSlotNames),
    ("queryParameters", .object (h.queryParameters.map fun (name, value) => (name, .string value))),
    ("locale", ofOption .string h.locale),
    ("referrerUri", ofOption .string h.referrerUri)]

end HyperSchema
