import HyperSchema.Failure
import HyperSchema.Slot.Property
import HyperSchema.Text.NameSet

namespace HyperSchema

/-- Slots under their names, and what is looked up in them otherwise. -/
structure SlotTable where
  /-- In the order in which they were added. -/
  slotNames : List String := []
  slots : List Slot := []
  /-- Ascending and distinct. -/
  searchableSlotNames : List String := []
  /-- From each relation to the name of its link slot. -/
  relations : List (String × String) := []

namespace SlotTable

/-- Adds a slot under its name. One that stands there already is replaced. -/
def insert (t : SlotTable) (s : Slot) : SlotTable :=
  { t with
    slotNames := t.slotNames ++ [s.name]
    slots := t.slots.filter (·.name ≠ s.name) ++ [s]
    searchableSlotNames :=
      if s.isSearchable then Text.insertName s.name t.searchableSlotNames
      else t.searchableSlotNames }

/-- Pairs a relation and a link with each other. What they were paired with before goes. -/
def relate (t : SlotTable) (relation link : String) : SlotTable :=
  { t with
    relations := t.relations.filter (fun e => e.1 ≠ relation ∧ e.2 ≠ link) ++ [(relation, link)] }

end SlotTable

/-- A schema merged with its bases. The slots of the schema itself stand before inherited ones. -/
structure Prototype extends SlotTable where
  schema : SchemaId
  version : Nat
  title : String
  description : String
  readOnly : Bool
  tags : List String
  /-- All bases, direct or not, each once. -/
  bases : List SchemaId
  /-- From each alias to the name of its slot. -/
  aliases : List (String × String)
  keySlotNames : List String
  comparableSlotNames : List String

namespace Prototype

def slotNamed? (slots : List Slot) (name : String) : Option Slot := slots.find? (·.name = name)

/-- The name itself when it is a slot's, else the slot's of which it is an alias. -/
def realName? (p : Prototype) (name : String) : Option String :=
  if (slotNamed? p.slots name).isSome then some name else p.aliases.lookup name

/-- Looks a slot up by its name or by one of its aliases. -/
def slot? (p : Prototype) (name : String) : Option Slot :=
  (p.realName? name).bind (slotNamed? p.slots)

def isA (p : Prototype) (id : SchemaId) : Bool := p.schema == id || p.bases.contains id

/-- All slots in their total order. -/
def sortedSlots (p : Prototype) : List Slot := Slot.sort p.slots

def propertySlots (p : Prototype) : List PropertySlot := p.slots.filterMap Slot.asProperty?

/-- Neither links nor collections. -/
def propertySlotNames (p : Prototype) : List String := p.propertySlots.map PropertySlot.name

def linkByRelation? (p : Prototype) (relation : String) : Option LinkSlot :=
  ((p.relations.lookup relation).bind (slotNamed? p.slots)).bind Slot.asLink?

def collectionSlot (p : Prototype) (name : String) : Except CompileError CollectionSlot :=
  match (p.slot? name).bind Slot.asCollection? with
  | some s => .ok s
  | none => .error (.wrongSlotKind p.schema name "collection")

def linkSlot (p : Prototype) (name : String) : Except CompileError LinkSlot :=
  match (p.slot? name).bind Slot.asLink? with
  | some s => .ok s
  | none => .error (.wrongSlotKind p.schema name "link")

/-- Checks a write and gives the name to store the value under. -/
def validateWrite (p : Prototype) (name : String) (v : Value) : Except ValidationError String :=
  match p.slot? name with
  | none => .error (.unknownSlot name p.schema)
  | some slot =>
    if p.readOnly then .error (.readOnly slot.name p.schema)
    else match slot with
      | .property s => (s.validate v).map fun _ => s.name
      | s => .error (.notWritable s.name s.kind)

end Prototype

namespace Model

def empty (schema : SchemaId) : Model := ⟨schema, none, [], {}⟩

/-- A model with all declared defaults in place. -/
def ofPrototype (p : Prototype) : Model :=
  { empty p.schema with
    slots := p.propertySlots.filterMap fun s => s.default.map (s.name, ·) }

/-- Writes a value that the prototype of the model accepts, under the real name of the slot. -/
def setSlot (m : Model) (p : Prototype) (name : String) (v : Value) :
    Except ValidationError Model :=
  if p.schema ≠ m.schema then .error (.unknownSlot name m.schema)
  else (p.validateWrite name v).map fun real => m.withSlot real v

end Model

end HyperSchema
