import HyperSchema.Proofs.Prototype.Declared
import Mathlib.Data.Option.Basic

namespace HyperSchema

namespace Declaration

def title : Declaration → String
  | value d => d.title
  | link d => d.title

def description : Declaration → String
  | value d => d.description
  | link d => d.description

theorem base_eq (owner declaring : SchemaId) (d : Declaration) :
    d.base owner declaring = {
      name := d.name
      owner, declaring
      valueType := d.valueType
      title := d.title
      description := d.description
      aliases := Text.nameSet d.aliases } := by
  cases d <;> rfl

end Declaration

/-- The limits, the default and the marks of a plain value are those declared, the texts among them
read as values of its type. -/
structure PropertySlot.DeclaredBy (form : TextForm) (d : SlotDeclaration) (s : PropertySlot) :
    Prop where
  default : Option.Rel (fun text v => coerce form text d.valueType = .ok v) d.default s.default
  minimum : Option.Rel (fun text b => coerce form text d.valueType = .ok b.value ∧
    b.exclusive = d.constraints.exclusiveMinimum) d.constraints.minimum s.minimum
  maximum : Option.Rel (fun text b => coerce form text d.valueType = .ok b.value ∧
    b.exclusive = d.constraints.exclusiveMaximum) d.constraints.maximum s.maximum
  minLength : s.minLength = d.constraints.minLength
  maxLength : s.maxLength = d.constraints.maxLength
  minSize : s.minSize = d.constraints.minSize
  maxSize : s.maxSize = d.constraints.maxSize
  divisor : Option.Rel (fun text v => coerce form text d.valueType = .ok v)
    d.constraints.divisor s.divisor
  disallowed : List.Forall₂ (fun text v => coerce form text d.valueType = .ok v)
    d.constraints.disallowed s.disallowed
  searchable : s.searchable = d.searchable
  linkBinding : s.linkBinding = d.linkBinding

structure CollectionSlot.DeclaredBy (settings : Settings) (d : SlotDeclaration)
    (k : CollectionDeclaration) (s : CollectionSlot) : Prop where
  reference : d.valueType = .list (.model s.reference)
  linkRelation : s.linkRelation = k.linkRelation
  limit : s.limit = (k.limit <|> settings.defaultResultLimit)
  and : s.and = k.and
  or : s.or = k.or

structure LinkSlot.DeclaredBy (d : LinkDeclaration) (s : LinkSlot) : Prop where
  method : s.method = d.method
  relation : s.relation = d.relation
  request : s.request = schemaOf? d.requestType
  response : s.response = schemaOf? d.responseType
  embedded : s.embedded = d.embedded
  bindings : s.bindings = d.bindings

/-- The slot is of the kind declared, and what it holds is what is declared. -/
def Slot.DeclaredBy (c : Conventions) : Slot → Declaration → Prop
  | .property s, .value d => d.collection = none ∧ s.DeclaredBy c.form d
  | .collection s, .value d => ∃ k, d.collection = some k ∧ s.DeclaredBy c.settings d k
  | .link s, .link d => s.DeclaredBy d
  | _, _ => False

namespace PropertySlot

variable {form : TextForm} {base : SlotBase} {d : SlotDeclaration} {s : PropertySlot}

theorem rel_of_compileNumber {what : String} {text : Option String} {v : Option Value}
    (h : compileNumber form base what text = .ok v) :
    Option.Rel (fun text v => coerce form text base.valueType = .ok v) text v := by
  cases text with
  | none =>
    cases h
    exact .none
  | some text =>
    rw [compileNumber] at h
    split at h
    next =>
      obtain ⟨value, hvalue, rfl⟩ := map_eq_ok_iff.mp h
      exact .some (liftFailure_eq_ok_iff.mp hvalue)
    next => cases h

theorem rel_map_bound {text : Option String} {v : Option Value} (exclusive : Bool)
    (h : Option.Rel (fun text v => coerce form text base.valueType = .ok v) text v) :
    Option.Rel (fun text b => coerce form text base.valueType = .ok b.value ∧
      b.exclusive = exclusive) text (v.map (Bound.mk · exclusive)) := by
  cases h with
  | none => exact .none
  | some h => exact .some ⟨h, rfl⟩

/-- The limits do not depend on the default, and there is none yet. -/
theorem compileLimits_declaredBy (hbase : base.valueType = d.valueType)
    (h : compileLimits form base d = .ok s) : s.DeclaredBy form { d with default := none } := by
  simp only [compileLimits, bind_eq_ok_iff] at h
  obtain ⟨minimum, hmin, maximum, hmax, -, -, divisor, hdiv, -, -, -, -, -, -, disallowed, hdis,
    h⟩ := h
  cases h
  have hread : (fun text v => coerced form base text = .ok v) =
      fun text v => coerce form text d.valueType = .ok v := by
    funext text v
    rw [coerced, liftFailure_eq_ok_iff, hbase]
  exact {
    default := .none
    minimum := hbase ▸ rel_map_bound _ (rel_of_compileNumber hmin)
    maximum := hbase ▸ rel_map_bound _ (rel_of_compileNumber hmax)
    minLength := rfl
    maxLength := rfl
    minSize := rfl
    maxSize := rfl
    divisor := hbase ▸ rel_of_compileNumber hdiv
    disallowed := hread ▸ mapM_eq_ok_iff.mp hdis
    searchable := rfl
    linkBinding := rfl }

theorem compile_declaredBy (hbase : base.valueType = d.valueType)
    (h : compile form base d = .ok s) : s.DeclaredBy form d := by
  simp only [compile, bind_eq_ok_iff] at h
  obtain ⟨t, ht, h⟩ := h
  have hlimits := compileLimits_declaredBy hbase ht
  cases hd : d.default with
  | none =>
    rw [hd] at h
    cases h
    have hsame : { d with default := none } = d := by rw [← hd]
    rwa [hsame] at hlimits
  | some text =>
    simp only [hd, bind_eq_ok_iff] at h
    obtain ⟨value, hvalue, h⟩ := h
    rw [coerced, liftFailure_eq_ok_iff, hbase] at hvalue
    split at h
    next =>
      cases h
      exact { hlimits with default := hd ▸ .some hvalue }
    next => cases h

end PropertySlot

theorem Declaration.compile_declaredBy {c : Conventions} {owner declaring : SchemaId}
    {d : Declaration} {s : Slot} (h : d.compile c owner declaring = .ok s) : s.DeclaredBy c d := by
  cases d with
  | value d =>
    change Prototype.compileValueSlot c owner declaring d = .ok s at h
    cases hk : d.collection with
    | some k =>
      simp only [Prototype.compileValueSlot, hk, liftFailure_eq_ok_iff, map_eq_ok_iff] at h
      obtain ⟨t, ht, rfl⟩ := h
      obtain ⟨reference, hr, -, -, rfl⟩ := CollectionSlot.compile_eq_ok_iff.mp ht
      exact ⟨k, hk, hr, rfl, rfl, rfl, rfl⟩
    | none =>
      simp only [Prototype.compileValueSlot, hk, map_eq_ok_iff] at h
      obtain ⟨t, ht, rfl⟩ := h
      exact ⟨hk, PropertySlot.compile_declaredBy rfl ht⟩
  | link d =>
    obtain ⟨t, ht, rfl⟩ := map_eq_ok_iff.mp (liftFailure_eq_ok_iff.mp h)
    obtain ⟨-, -, rfl⟩ := LinkSlot.compile_eq_ok_iff.mp ht
    exact ⟨rfl, rfl, rfl, rfl, rfl, rfl⟩

end HyperSchema
