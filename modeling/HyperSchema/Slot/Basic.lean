import HyperSchema.Schema.Declaration
import HyperSchema.Slot.Kind
import HyperSchema.Value

namespace HyperSchema

/-- What every kind of slot has. -/
structure SlotBase where
  name : String
  /-- The schema whose prototype holds the slot. -/
  owner : SchemaId
  /-- The schema, the owner or one of its bases, that declares the slot. -/
  declaring : SchemaId
  valueType : ValueType
  title : String
  description : String
  /-- Ascending and distinct. -/
  aliases : List String
deriving DecidableEq, Repr

structure Bound where
  value : Value
  exclusive : Bool

/-- A plain value with limits on what may be written. -/
structure PropertySlot where
  base : SlotBase
  default : Option Value
  minimum : Option Bound
  maximum : Option Bound
  minLength : Option Nat
  maxLength : Option Nat
  minSize : Option Nat
  maxSize : Option Nat
  divisor : Option Value
  disallowed : List Value
  searchable : Bool
  linkBinding : Option String

/-- A list of models that a search for documents of the reference schema fills. -/
structure CollectionSlot where
  base : SlotBase
  reference : SchemaId
  linkRelation : Option String
  limit : Option Nat
  and : List CriterionDeclaration
  or : List CriterionDeclaration

structure LinkSlot where
  base : SlotBase
  method : Method
  relation : String
  request : Option SchemaId
  response : Option SchemaId
  embedded : Bool
  bindings : List (String × SourceDeclaration)

def PropertySlot.name (s : PropertySlot) : String := s.base.name

def CollectionSlot.name (s : CollectionSlot) : String := s.base.name

def LinkSlot.name (s : LinkSlot) : String := s.base.name

inductive Slot where
  | property (slot : PropertySlot)
  | collection (slot : CollectionSlot)
  | link (slot : LinkSlot)

namespace Slot

def base : Slot → SlotBase
  | property s => s.base
  | collection s => s.base
  | link s => s.base

def kind : Slot → SlotKind
  | property _ => .property
  | collection _ => .collection
  | link _ => .link

def name (s : Slot) : String := s.base.name

def valueType (s : Slot) : ValueType := s.base.valueType

def asProperty? : Slot → Option PropertySlot
  | property s => some s
  | _ => none

def asCollection? : Slot → Option CollectionSlot
  | collection s => some s
  | _ => none

def asLink? : Slot → Option LinkSlot
  | link s => some s
  | _ => none

def isSearchable (s : Slot) : Bool := s.asProperty?.any (·.searchable)

/-- By kind, name, type, owner and declaring schema, in this order. -/
def order (a b : Slot) : Ordering :=
  (compare a.kind b.kind).then <|
    (compare a.name b.name).then <|
      (compare a.valueType b.valueType).then <|
        (compare a.base.owner b.base.owner).then <|
          compare a.base.declaring b.base.declaring

/-- Slots are the same when nothing that orders them differs. -/
def isSame (a b : Slot) : Bool :=
  a.kind == b.kind && a.name == b.name && a.valueType == b.valueType &&
    a.base.owner == b.base.owner && a.base.declaring == b.base.declaring

def sort (slots : List Slot) : List Slot := slots.mergeSort fun a b => (order a b).isLE

end Slot

end HyperSchema
