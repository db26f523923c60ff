import HyperSchema.Lineage
import HyperSchema.Prototype
import HyperSchema.Settings
import HyperSchema.Slot.Reference

/-!
From a schema and its bases to a prototype. The lineage is the schema followed by its bases; of the
declarations of one name the first in the lineage counts.
-/

namespace HyperSchema

/-- What a prototype is compiled with, besides the schemas. -/
structure Conventions where
  form : TextForm
  settings : Settings

namespace Prototype

/-- Names that every model has for itself. -/
def builtInNames : List String := ["schemaId", "uri", "hints", "keys", "prototype"]

def isReserved (settings : Settings) (name : String) : Bool :=
  builtInNames.contains name || settings.reservedSlotNames.contains name

theorem isReserved_eq_false_iff {settings : Settings} {name : String} :
    isReserved settings name = false ↔
      name ∉ builtInNames ∧ name ∉ settings.reservedSlotNames := by
  rw [isReserved, Bool.or_eq_false_iff, List.contains_eq_mem, List.contains_eq_mem,
    decide_eq_false_iff_not, decide_eq_false_iff_not]

def kindOf (d : SlotDeclaration) : SlotKind :=
  if d.collection.isSome then .collection else .property

/-- All names that a schema declares, the links last. -/
def declaredNames (s : Schema) : List (String × SlotKind) :=
  s.slots.map (fun d => (d.name, kindOf d)) ++ s.links.map fun d => (d.name, .link)

/-- Names must not be reserved nor repeated, and must keep the kind that they have already. -/
def checkNames (settings : Settings) (owner declaring : SchemaId) (table : List Slot) :
    List String → List (String × SlotKind) → Except CompileError Unit
  | _, [] => .ok ()
  | seen, (name, kind) :: rest =>
    if isReserved settings name then .error (.reservedSlotName owner name)
    else if name ∈ seen then .error (.duplicateSlot declaring name)
    else match slotNamed? table name with
      | some slot =>
        if slot.kind = kind then checkNames settings owner declaring table (name :: seen) rest
        else .error (.slotKindConflict owner name slot.kind kind)
      | none => checkNames settings owner declaring table (name :: seen) rest

def valueSlotBase (owner declaring : SchemaId) (d : SlotDeclaration) : SlotBase where
  name := d.name
  owner := owner
  declaring := declaring
  valueType := d.valueType
  title := d.title
  description := d.description
  aliases := Text.nameSet d.aliases

def linkSlotBase (owner declaring : SchemaId) (d : LinkDeclaration) : SlotBase where
  name := d.name
  owner := owner
  declaring := declaring
  valueType := .link
  title := d.title
  description := d.description
  aliases := []

def compileValueSlot (c : Conventions) (owner declaring : SchemaId) (d : SlotDeclaration) :
    Except Failure Slot :=
  let base := valueSlotBase owner declaring d
  match d.collection with
  | some collection =>
    liftFailure .compile
      ((CollectionSlot.compile base d collection c.settings.defaultResultLimit).map .collection)
  | none => (PropertySlot.compile c.form base d).map .property

def addValueSlot (c : Conventions) (owner declaring : SchemaId) (table : SlotTable)
    (d : SlotDeclaration) : Except Failure SlotTable :=
  if (slotNamed? table.slots d.name).isSome then .ok table
  else (compileValueSlot c owner declaring d).map table.insert

def addLinkSlot (owner declaring : SchemaId) (table : SlotTable) (d : LinkDeclaration) :
    Except CompileError SlotTable :=
  if (slotNamed? table.slots d.name).isSome then .ok table
  else match table.relations.lookup d.relation with
    | some first => .error (.duplicateLinkRelation owner d.relation first d.name)
    | none =>
      (LinkSlot.compile (linkSlotBase owner declaring d) d).map fun s =>
        (table.relate d.relation d.name).insert (.link s)

/-- Adds the declarations of one schema whose names are not in the table yet. -/
def merge (c : Conventions) (owner : SchemaId) (table : SlotTable) (s : Schema) :
    Except Failure SlotTable := do
  liftFailure .compile (checkNames c.settings owner s.id table.slots [] (declaredNames s))
  let table ← s.slots.foldlM (addValueSlot c owner s.id) table
  liftFailure .compile (s.links.foldlM (addLinkSlot owner s.id) table)

/-- Every alias after the name of its slot. -/
def declaredAliases (table : List Slot) : List (String × String) :=
  table.flatMap fun s => s.base.aliases.map (s.name, ·)

/-- What is wrong with an alias, given those before it. -/
def aliasFault? (settings : Settings) (table : List Slot) (taken : List (String × String))
    (name byname : String) : Option String :=
  if byname = name then some "an alias cannot equal its own slot name"
  else if isReserved settings byname then some "it is a reserved name"
  else if (slotNamed? table byname).isSome then some "it is the name of another slot"
  else (taken.lookup byname).map fun other => "it is already an alias of '" ++ other ++ "'"

def indexAliases (settings : Settings) (owner : SchemaId) (table : List Slot) :
    List (String × String) → List (String × String) → Except CompileError (List (String × String))
  | taken, [] => .ok taken
  | taken, (name, byname) :: rest =>
    match aliasFault? settings table taken name byname with
    | some reason => .error (.invalidAlias owner name byname reason)
    | none => indexAliases settings owner table (taken ++ [(byname, name)]) rest

/-- A slot bound to a link is filled by one model. -/
def checkLinkBinding (owner : SchemaId) (table : List Slot) (s : PropertySlot) :
    Except CompileError Unit :=
  match s.linkBinding with
  | none => .ok ()
  | some link =>
    if ((slotNamed? table link).bind Slot.asLink?).isNone then
      .error (.unknownLinkSlot owner s.name link)
    else if !s.base.valueType.isModel then
      .error (.wrongSlotKind owner s.name "model-typed")
    else .ok ()

/-- The prototype without key and comparable names, after the schemas of its lineage. -/
def draft (c : Conventions) (store : Store) (id : SchemaId) :
    Except Failure (List Schema × Prototype) := do
  let some s := store.find? id | throw (.compile (.schemaNotFound id))
  let bases ← liftFailure .compile (Lineage.bases store s)
  let lineage := s :: bases
  let table ← lineage.foldlM (merge c s.id) {}
  let slots := table.slots
  let aliases ← liftFailure .compile (indexAliases c.settings s.id slots [] (declaredAliases slots))
  liftFailure .compile ((slots.filterMap Slot.asProperty?).forM (checkLinkBinding s.id slots))
  pure (lineage, {
    toSlotTable := table
    schema := s.id
    version := s.version
    title := s.title
    description := s.description
    readOnly := s.readOnly
    tags := s.tags
    bases := bases.map (·.id)
    aliases
    keySlotNames := []
    comparableSlotNames := [] })

def isKnown (p : Prototype) (name : String) : Bool := (p.realName? name).isSome

/-- Adds a key as the slot that it stands for. -/
def addKey (p : Prototype) (key : String) : Except CompileError Prototype :=
  match p.realName? key with
  | some name => .ok { p with keySlotNames := Text.insertName name p.keySlotNames }
  | none => .error (.unknownKeySlot p.schema key)

/-- Adds a comparable as the slot that it stands for, if there is one. -/
def addComparable (p : Prototype) (comparable : String) : Prototype :=
  match p.realName? comparable with
  | some name => { p with comparableSlotNames := Text.insertName name p.comparableSlotNames }
  | none => p

def addNames (p : Prototype) (s : Schema) : Except CompileError Prototype := do
  let p ← s.keySlotNames.foldlM addKey p
  pure (s.comparableSlotNames.foldl addComparable p)

/-- Collects the keys and comparables of the lineage. -/
def withNames (p : Prototype) (lineage : List Schema) : Except CompileError Prototype :=
  lineage.foldlM addNames p

/-- The comparables passed over, up to the first schema with an unknown key. -/
def ignoredComparables (p : Prototype) (lineage : List Schema) : List String :=
  (lineage.takeWhile fun s => s.keySlotNames.all p.isKnown).flatMap fun s =>
    s.comparableSlotNames.filter fun n => !p.isKnown n

/-- What compiling a schema gives, and the comparable names that it passes over. -/
structure Compilation where
  ignored : List String
  outcome : Except Failure Prototype

def compile (c : Conventions) (store : Store) (id : SchemaId) : Compilation :=
  match draft c store id with
  | .error e => ⟨[], .error e⟩
  | .ok (lineage, p) => ⟨p.ignoredComparables lineage, liftFailure .compile (p.withNames lineage)⟩

end Prototype

end HyperSchema
