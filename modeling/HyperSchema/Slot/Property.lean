import HyperSchema.Failure
import HyperSchema.Slot.Basic

namespace HyperSchema
open Decimal

namespace PropertySlot

def mismatch (s : PropertySlot) (v : Value) : ValidationError :=
  .typeMismatch s.name s.base.valueType.display v.kind

def notDivisible (s : PropertySlot) (v : Value) : ValidationError :=
  .notDivisible s.name v.display ((s.divisor.map Value.display).getD "")

/-- Whether a number keeps to a lower bound. -/
def aboveMinimum (v : Value) (b : Bound) : Bool :=
  match v.compareNumeric? b.value with
  | some .gt => true
  | some .eq => !b.exclusive
  | _ => false

/-- Whether a number keeps to an upper bound. -/
def belowMaximum (v : Value) (b : Bound) : Bool :=
  match v.compareNumeric? b.value with
  | some .lt => true
  | some .eq => !b.exclusive
  | _ => false

def checkMinimum (s : PropertySlot) (v : Value) : Except ValidationError Unit :=
  match s.minimum with
  | some b =>
    if aboveMinimum v b then .ok ()
    else .error (.belowMinimum s.name v.display b.value.display b.exclusive)
  | none => .ok ()

def checkMaximum (s : PropertySlot) (v : Value) : Except ValidationError Unit :=
  match s.maximum with
  | some b =>
    if belowMaximum v b then .ok ()
    else .error (.aboveMaximum s.name v.display b.value.display b.exclusive)
  | none => .ok ()

def checkRange (s : PropertySlot) (v : Value) : Except ValidationError Unit := do
  s.checkMinimum v
  s.checkMaximum v

def checkInteger (s : PropertySlot) (v : Value) : Except ValidationError Unit := do
  let some n := v.asInt? | throw (s.mismatch v)
  if s.base.valueType = .integer ∧ ¬(Int32.minValue.toInt ≤ n ∧ n ≤ Int32.maxValue.toInt) then
    throw (s.mismatch v)
  s.checkRange v
  if let some d := s.divisor.bind Value.asInt? then
    if (remainder? n d).getD 0 ≠ 0 then throw (s.notDivisible v)

def checkDouble (s : PropertySlot) (v : Value) : Except ValidationError Unit := do
  let some x := v.asDouble? | throw (s.mismatch v)
  s.checkRange v
  if let some d := s.divisor.bind Value.asDouble? then
    if !x.isMultipleOf d then throw (s.notDivisible v)

def checkText (s : PropertySlot) (v : Value) : Except ValidationError Unit := do
  let .text t := v | throw (s.mismatch v)
  let length := t.length
  if let some most := s.maxLength then
    if most < length then throw (.tooLong s.name length most)
  if let some least := s.minLength then
    if length < least then throw (.tooShort s.name length least)

/-- Checks a value about to be written. Types other than numbers and text are not looked into. -/
def validate (s : PropertySlot) (v : Value) : Except ValidationError Unit :=
  if s.disallowed.any (· == v) then .error (.disallowed s.name v.display)
  else match s.base.valueType with
    | .integer | .long => s.checkInteger v
    | .double => s.checkDouble v
    | .text => s.checkText v
    | _ => .ok ()

def invalid (base : SlotBase) (reason : String) : Failure :=
  .compile (.invalidConstraint base.owner base.name reason)

def coerced (form : TextForm) (base : SlotBase) (text : String) : Except Failure Value :=
  liftFailure .coercion (coerce form text base.valueType)

/-- A limit that only numbers can have. -/
def compileNumber (form : TextForm) (base : SlotBase) (what : String) :
    Option String → Except Failure (Option Value)
  | none => .ok none
  | some text =>
    if base.valueType.isNumeric then (coerced form base text).map some
    else .error (invalid base (what ++ " needs a numeric slot, not " ++ base.valueType.display))

def checkOrdered (base : SlotBase) (what : String) (least most : Option Nat) :
    Except Failure Unit :=
  match least, most with
  | some a, some b =>
    if b < a then
      .error (invalid base ("min " ++ what ++ " " ++ toString a ++ " exceeds max " ++ what ++ " " ++
        toString b))
    else .ok ()
  | _, _ => .ok ()

def checkBounds (base : SlotBase) (minimum maximum : Option Value) : Except Failure Unit :=
  match minimum, maximum with
  | some a, some b =>
    if a.compareNumeric? b == some .gt then
      .error (invalid base ("minimum " ++ a.display ++ " exceeds maximum " ++ b.display))
    else .ok ()
  | _, _ => .ok ()

def checkDivisor (base : SlotBase) (divisor : Option Value) : Except Failure Unit :=
  if (divisor.bind Value.asDouble?).any Binary64.isZero then
    .error (invalid base "divisor cannot be zero")
  else .ok ()

/-- The slot with its limits, before its default is known. -/
def compileLimits (form : TextForm) (base : SlotBase) (d : SlotDeclaration) :
    Except Failure PropertySlot := do
  let c := d.constraints
  let minimum ← compileNumber form base "minimum" c.minimum
  let maximum ← compileNumber form base "maximum" c.maximum
  checkBounds base minimum maximum
  let divisor ← compileNumber form base "divisor" c.divisor
  checkDivisor base divisor
  checkOrdered base "length" c.minLength c.maxLength
  checkOrdered base "size" c.minSize c.maxSize
  let disallowed ← c.disallowed.mapM (coerced form base)
  pure {
    base
    default := none
    minimum := minimum.map (⟨·, c.exclusiveMinimum⟩)
    maximum := maximum.map (⟨·, c.exclusiveMaximum⟩)
    minLength := c.minLength
    maxLength := c.maxLength
    minSize := c.minSize
    maxSize := c.maxSize
    divisor
    disallowed
    searchable := d.searchable
    linkBinding := d.linkBinding }

/-- A default must itself be a value that may be written. -/
def compile (form : TextForm) (base : SlotBase) (d : SlotDeclaration) :
    Except Failure PropertySlot := do
  let slot ← compileLimits form base d
  match d.default with
  | none => pure slot
  | some text =>
    let value ← coerced form base text
    match slot.validate value with
    | .ok () => pure { slot with default := some value }
    | .error e =>
      throw (invalid base ("default " ++ value.display ++ " is rejected: " ++ e.message))

end PropertySlot

end HyperSchema
