import HyperSchema.Coercion
import HyperSchema.Slot.Kind
import HyperSchema.Text.Quoted

namespace HyperSchema

/-- Why a schema has no prototype, or a prototype no such slot. -/
inductive CompileError where
  | schemaNotFound (schema : SchemaId)
  | cyclicInheritance (schema : SchemaId) (cycle : List SchemaId)
  | duplicateLinkRelation (schema : SchemaId) (relation first second : String)
  | reservedSlotName (schema : SchemaId) (slot : String)
  | duplicateSlot (schema : SchemaId) (slot : String)
  | slotKindConflict (schema : SchemaId) (slot : String) (first second : SlotKind)
  | notAModelList (schema : SchemaId) (slot : String) (found : ValueType)
  | conflictingBinding (schema : SchemaId) (slot link : String)
  | invalidAlias (schema : SchemaId) (slot byname reason : String)
  | unknownKeySlot (schema : SchemaId) (slot : String)
  | invalidConstraint (schema : SchemaId) (slot reason : String)
  | invalidLimit (schema : SchemaId) (slot : String) (limit : Nat)
  | embeddedUnsafeLink (schema : SchemaId) (slot method : String)
  | unboundLinkBinding (schema : SchemaId) (slot : String)
  | unknownLinkSlot (schema : SchemaId) (slot link : String)
  | unknownReferenceSlot (schema : SchemaId) (slot : String)
  | unknownReferrerSlot (schema : SchemaId) (slot : String)
  | wrongSlotKind (schema : SchemaId) (slot expected : String)
deriving DecidableEq, Repr

/-- Identifiers in brackets, each quoted. -/
def SchemaId.displayList (ids : List SchemaId) : String :=
  "[" ++ Text.joinWith ", " (ids.map fun id => "SchemaId(" ++ Text.quoted id.text ++ ")") ++ "]"

namespace CompileError

def within (schema : SchemaId) (rest : String) : String := "Schema " ++ schema.text ++ rest

def ofSlot (schema : SchemaId) (slot rest : String) : String :=
  within schema (": slot '" ++ slot ++ rest)

def ofCollection (schema : SchemaId) (slot rest : String) : String :=
  within schema (": collection slot '" ++ slot ++ rest)

def ofLink (schema : SchemaId) (slot rest : String) : String :=
  within schema (": link slot '" ++ slot ++ rest)

def message : CompileError → String
  | schemaNotFound schema => "Schema not found: " ++ schema.text
  | cyclicInheritance schema cycle =>
    within schema (" inherits from itself through " ++ SchemaId.displayList cycle)
  | duplicateLinkRelation schema relation first second =>
    within schema (": link relation " ++ relation ++ " is claimed by both '" ++ first ++
      "' and '" ++ second ++ "'")
  | reservedSlotName schema slot => within schema (": slot name '" ++ slot ++ "' is reserved")
  | duplicateSlot schema slot => ofSlot schema slot "' is declared more than once"
  | slotKindConflict schema slot first second =>
    within schema (": slot name '" ++ slot ++ "' is declared both as a " ++ first.name ++
      " and as a " ++ second.name)
  | notAModelList schema slot found =>
    ofCollection schema slot ("' must be a list of models, found " ++ found.display)
  | conflictingBinding schema slot link =>
    ofCollection schema slot ("' also declares a link binding to '" ++ link ++ "'")
  | invalidAlias schema slot byname reason =>
    within schema (": alias '" ++ byname ++ "' of slot '" ++ slot ++ "' is invalid: " ++ reason)
  | unknownKeySlot schema slot => within schema (": key slot '" ++ slot ++ "' does not exist")
  | invalidConstraint schema slot reason =>
    ofSlot schema slot ("' has an invalid constraint: " ++ reason)
  | invalidLimit schema slot limit =>
    ofCollection schema slot ("' has limit " ++ toString limit ++ ", must be at least 1")
  | embeddedUnsafeLink schema slot method =>
    ofLink schema slot ("' is embedded but " ++ method ++ " is not a safe method")
  | unboundLinkBinding schema slot =>
    ofLink schema slot "' declares bindings but has no response schema"
  | unknownLinkSlot schema slot link =>
    ofSlot schema slot ("' is bound to unknown link slot '" ++ link ++ "'")
  | unknownReferenceSlot schema slot =>
    within schema (": reference slot '" ++ slot ++ "' does not exist")
  | unknownReferrerSlot schema slot =>
    within schema (": referrer slot '" ++ slot ++ "' does not exist")
  | wrongSlotKind schema slot expected => ofSlot schema slot ("' is not a " ++ expected ++ " slot")

end CompileError

/-- Why a value may not be written to a slot. -/
inductive ValidationError where
  | disallowed (slot value : String)
  | belowMinimum (slot value minimum : String) (exclusive : Bool)
  | aboveMaximum (slot value maximum : String) (exclusive : Bool)
  | notDivisible (slot value divisor : String)
  | tooShort (slot : String) (length minLength : Nat)
  | tooLong (slot : String) (length maxLength : Nat)
  | typeMismatch (slot expected actual : String)
  | readOnly (slot : String) (schema : SchemaId)
  | notWritable (slot : String) (kind : SlotKind)
  | unknownSlot (slot : String) (schema : SchemaId)
deriving DecidableEq, Repr

namespace ValidationError

private def boundKind (exclusive : Bool) : String := if exclusive then "exclusive" else "inclusive"

private def ofSlot (slot rest : String) : String := "Slot '" ++ slot ++ "': " ++ rest

def message : ValidationError → String
  | disallowed slot value => ofSlot slot ("value " ++ value ++ " is not allowed")
  | belowMinimum slot value minimum exclusive =>
    ofSlot slot ("value " ++ value ++ " is below the " ++ boundKind exclusive ++
      " minimum " ++ minimum)
  | aboveMaximum slot value maximum exclusive =>
    ofSlot slot ("value " ++ value ++ " is above the " ++ boundKind exclusive ++
      " maximum " ++ maximum)
  | notDivisible slot value divisor =>
    ofSlot slot ("value " ++ value ++ " is not divisible by " ++ divisor)
  | tooShort slot length minLength =>
    ofSlot slot ("length " ++ toString length ++ " is shorter than the minimum length " ++
      toString minLength)
  | tooLong slot length maxLength =>
    ofSlot slot ("length " ++ toString length ++ " exceeds the maximum length " ++
      toString maxLength)
  | typeMismatch slot expected actual =>
    ofSlot slot ("expected a " ++ expected ++ " value, got " ++ actual)
  | readOnly slot schema => ofSlot slot ("schema " ++ schema.text ++ " is read-only")
  | notWritable slot kind =>
    "Slot '" ++ slot ++ "' is a " ++ kind.name ++ " slot and cannot be written"
  | unknownSlot slot schema => "Slot '" ++ slot ++ "' does not exist in schema " ++ schema.text

end ValidationError

inductive ConfigError where
  /-- A settings source that cannot be read as one. -/
  | malformed
  | zeroResultLimit
deriving DecidableEq, Repr

def ConfigError.messageWith (reason : String) : ConfigError → String
  | malformed => reason
  | zeroResultLimit => "default_result_limit must be at least 1"

/-- Everything an operation can answer instead of a result. -/
inductive Failure where
  | config (e : ConfigError)
  | compile (e : CompileError)
  | coercion (e : CoercionError)
  | validation (e : ValidationError)
  /-- A schema document that cannot be read as one. -/
  | document
  | pattern (pattern : String)
deriving DecidableEq, Repr

/-- Why a document, a pattern or settings cannot be read their reader has the words for. -/
def Failure.messageWith (reason : String) : Failure → String
  | config e => "Config error: " ++ e.messageWith reason
  | compile e => "Compilation error: " ++ e.message
  | coercion e => "Coercion error: " ++ e.message
  | validation e => "Validation error: " ++ e.message
  | document => "Document error: " ++ reason
  | pattern p => "Invalid pattern '" ++ p ++ "': " ++ reason

def Failure.message (f : Failure) : String := f.messageWith "cannot be read"

/-- Widens the failure of one stage to that of a whole operation. -/
def liftFailure (f : ε → Failure) : Except ε α → Except Failure α := Except.mapError f

end HyperSchema
