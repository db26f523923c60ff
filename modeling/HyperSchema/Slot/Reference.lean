import HyperSchema.Failure
import HyperSchema.Slot.Basic

namespace HyperSchema

namespace CollectionSlot

def compile (base : SlotBase) (d : SlotDeclaration) (c : CollectionDeclaration)
    (defaultLimit : Option Nat) : Except CompileError CollectionSlot := do
  let .list (.model reference) := base.valueType
    | throw (.notAModelList base.owner base.name base.valueType)
  if let some link := d.linkBinding then
    throw (.conflictingBinding base.owner base.name link)
  if c.limit = some 0 then
    throw (.invalidLimit base.owner base.name 0)
  pure {
    base
    reference
    linkRelation := c.linkRelation
    limit := c.limit <|> defaultLimit
    and := c.and
    or := c.or }

end CollectionSlot

namespace LinkSlot

/-- The schema of a model type. -/
def schemaOf? : Option ValueType → Option SchemaId
  | some (.model schema) => some schema
  | _ => none

/-- Only methods that read may be embedded, and bindings need a response to read them from. -/
def compile (base : SlotBase) (d : LinkDeclaration) : Except CompileError LinkSlot := do
  if d.embedded ∧ ¬d.method.isSafe then
    throw (.embeddedUnsafeLink base.owner base.name d.method.name)
  let response := schemaOf? d.responseType
  if d.bindings ≠ [] ∧ response = none then
    throw (.unboundLinkBinding base.owner base.name)
  pure {
    base
    method := d.method
    relation := d.relation
    request := schemaOf? d.requestType
    response
    embedded := d.embedded
    bindings := d.bindings }

end LinkSlot

end HyperSchema
