import HyperSchema.Prototype
import HyperSchema.Text.Casing

namespace HyperSchema
open Decimal

namespace Value

/-- Under these names a native object may hold a member, the first that is there counts. -/
def accessorNames (name : String) : List String :=
  let capitalized := Text.capitalize name
  [name, "get" ++ capitalized, "is" ++ capitalized]

/-- A JSON value as a value; null is none. Integers beyond the long ones become doubles. -/
def ofJson? : Json → Option Value
  | .null => none
  | .bool b => some (.boolean b)
  | .integer n =>
    if lowestLong ≤ n ∧ n ≤ highestLong then some (.long (Int64.ofInt n))
    else some (.double (Binary64.ofInt n))
  | .real x => some (.double x)
  | .string s => some (.text s)
  | j => some (.native j)

/-- A slot of a model or a member of a native object; other values have no members. -/
def member? (v : Value) (name : String) : Option Value :=
  match v with
  | .model _ m => m.slotValue? name
  | .native (.object members) =>
    ((accessorNames name).findSome? fun n => (Json.object members).member? n).bind ofJson?
  | _ => none

end Value

/-- Where a value source takes its value from. -/
inductive Origin where
  /-- A slot of the referrer, then one member after the other. -/
  | path (first : String) (rest : List String)
  | parameter
  | constant (value : Value)

/-- A source of values for a slot of a reference schema, as seen from models of a referrer
schema. -/
structure ValueSource where
  reference : SchemaId
  slot : String
  valueType : ValueType
  referrer : SchemaId
  text : String
  origin : Origin

namespace ValueSource

def kind (s : ValueSource) : SourceKind :=
  match s.origin with
  | .path .. => .referrerSlot
  | .parameter => .queryParameter
  | .constant _ => .constant

def constant? (s : ValueSource) : Option Value :=
  match s.origin with
  | .constant v => some v
  | _ => none

def segments (text : String) : List String :=
  (Text.splitChars '.' text.toList).map fun part => String.ofList (Text.trimChars part)

/-- Only the first segment can be looked up before there is a model. -/
def compilePath (referrer : Prototype) (text : String) : Except CompileError Origin :=
  let unknown := CompileError.unknownReferrerSlot referrer.schema text
  match segments text with
  | [] => .error unknown
  | first :: rest =>
    if (first :: rest).any (·.isEmpty) then .error unknown
    else match referrer.realName? first with
      | some real => .ok (.path real rest)
      | none => .error unknown

def compileOrigin (form : TextForm) (valueType : ValueType) (referrer : Prototype)
    (d : SourceDeclaration) : Except Failure Origin :=
  match d.kind with
  | .referrerSlot => liftFailure .compile (compilePath referrer d.text)
  | .queryParameter => .ok .parameter
  | .constant => liftFailure .coercion ((coerce form d.text valueType).map .constant)

def compile (form : TextForm) (reference : Prototype) (slot : String) (referrer : Prototype)
    (d : SourceDeclaration) : Except Failure ValueSource :=
  match reference.slot? slot with
  | none => .error (.compile (.unknownReferenceSlot reference.schema slot))
  | some s =>
    (compileOrigin form s.valueType referrer d).map fun origin =>
      { reference := reference.schema
        slot := s.name
        valueType := s.valueType
        referrer := referrer.schema
        text := d.text
        origin }

/-- Reads member after member; nothing can be read off a missing value. -/
def follow (v : Option Value) (path : List String) : Option Value :=
  path.foldl (fun v name => v.bind (·.member? name)) v

/-- The first member that would have to be read off a missing value. -/
def interruptedAt? : Option Value → List String → Option String
  | _, [] => none
  | none, name :: _ => some name
  | some v, name :: rest => interruptedAt? (v.member? name) rest

/-- The value for a given referrer. A parameter must be text of the slot's type if it is there. -/
def resolve (form : TextForm) (s : ValueSource) (referrer : Model) :
    Except CoercionError (Option Value) :=
  match s.origin with
  | .constant v => .ok (some v)
  | .parameter =>
    match referrer.hints.queryParameter? s.text with
    | some raw => (coerce form raw s.valueType).map some
    | none => .ok none
  | .path first rest => .ok (follow (referrer.slotValue? first) rest)

end ValueSource

end HyperSchema
