import HyperSchema.Proofs.Coercion.RoundTrip
import HyperSchema.Proofs.Prototype.Bases
import HyperSchema.Proofs.Slot.Declared
import HyperSchema.Proofs.ValueSource

namespace HyperSchema

/-- The values of a type. Those of integers keep to the range of the type by what they are made
of. -/
inductive Conforms : ValueType → Value → Prop where
  | boolean (b : Bool) : Conforms .boolean (.boolean b)
  | integer (n : Int32) : Conforms .integer (.integer n)
  | long (n : Int64) : Conforms .long (.long n)
  | double (x : Decimal.Binary64) : Conforms .double (.double x)
  | text (s : String) : Conforms .text (.text s)
  | date (m : Calendar.Moment) : Conforms .date (.date m)
  | link {s : String} (nonempty : s ≠ "") (trimmed : Text.Trimmed s.toList) :
      Conforms .link (.link s)
  | choice {options : List String} {s : String} (option : options = [] ∨ s ∈ options) :
      Conforms (.choice options) (.choice s)
  | model {schema : SchemaId} {i : Nat} {m : Model} (same : m.schema = schema) :
      Conforms (.model schema) (.model i m)
  | list {element : ValueType} {items : List Value} (each : ∀ v ∈ items, Conforms element v) :
      Conforms (.list element) (.list items)
  | native (name : String) (j : Json) : Conforms (.native name) (.native j)

variable {fault : String → String}

namespace Coercion
open Text

variable {text : String} {T element : ValueType} {v : Value} {items : List Value}

theorem conforms_of_readScalar (h : readScalar fault text T = .ok v) : Conforms T v := by
  cases T with
  | boolean =>
    simp only [readScalar] at h
    split at h
    next => cases h; exact .boolean true
    next =>
      split at h
      next => cases h; exact .boolean false
      next => cases h
  | integer =>
    simp only [readScalar] at h
    split at h
    next => cases h; exact .integer _
    next => cases h
  | long =>
    simp only [readScalar] at h
    split at h
    next => cases h; exact .long _
    next => cases h
  | double =>
    simp only [readScalar] at h
    split at h
    next => cases h; exact .double _
    next => cases h
  | text =>
    cases h
    exact .text text
  | date =>
    simp only [readScalar] at h
    split at h
    next => cases h; exact .date _
    next => cases h
  | link =>
    simp only [readScalar] at h
    split at h
    next => cases h
    next hne =>
      cases h
      refine .link ?_ ?_
      · intro hempty
        rw [String.ofList_eq_empty_iff] at hempty
        exact hne (List.isEmpty_iff.mpr hempty)
      · rw [String.toList_ofList]
        exact trimmed_trimChars text.toList
  | choice options =>
    simp only [readScalar] at h
    split at h
    next hoption =>
      cases h
      rw [Bool.or_eq_true, List.isEmpty_iff, List.contains_iff_mem] at hoption
      exact .choice hoption
    next => cases h
  | native name =>
    simp only [readScalar] at h
    split at h
    next => cases h; exact .native name _
    next => cases h
  | model | list => cases h

/-- The elements of a list conform when whatever reads them makes them conform. -/
theorem conforms_of_readList {parse : Parse} (h : readList parse text element = .ok items)
    (hparse : ∀ s v, parse s element = .ok v → Conforms element v) :
    Conforms (.list element) (.list items) := by
  refine .list ?_
  obtain ⟨content, -, -, ⟨-, rfl⟩ | ⟨-, hitems⟩⟩ := readList_eq_ok_iff.mp h
  · simp
  · intro v hv
    obtain ⟨piece, -, hpiece⟩ := exists_mem_of_forall₂ hitems hv
    exact hparse _ v hpiece

theorem conforms_of_parse (h : (TextForm.standardWith fault).parse text T = .ok v) :
    Conforms T v := by
  cases T with
  | list element =>
    simp only [TextForm.standardWith, map_eq_ok_iff] at h
    obtain ⟨items, hitems, rfl⟩ := h
    exact conforms_of_readList hitems fun _ _ => conforms_of_readScalar
  | _ =>
    rw [parse_of_element? rfl] at h
    exact conforms_of_readScalar h

theorem conforms_of_coerce (h : coerce (.standardWith fault) text T = .ok v) : Conforms T v := by
  cases T with
  | list element =>
    rw [coerce, map_eq_ok_iff] at h
    obtain ⟨items, hitems, rfl⟩ := h
    exact conforms_of_readList hitems fun _ _ => conforms_of_parse
  | _ =>
    rw [coerce_of_element? rfl] at h
    exact conforms_of_readScalar h

theorem coerce_model_ne_ok (text : String) (schema : SchemaId) (v : Value) :
    coerce (.standardWith fault) text (.model schema) ≠ .ok v := nofun

theorem coerce_nested_ne_ok (text : String) (element : ValueType) (v : Value) :
    coerce (.standardWith fault) text (.list (.list element)) ≠ .ok v := by
  intro h
  obtain ⟨items, hitems, -⟩ := map_eq_ok_iff.mp h
  obtain ⟨-, -, hscalar, -⟩ := readList_eq_ok_iff.mp hitems
  cases hscalar

/-- Any text between two commas would have to be read as a model. -/
theorem eq_nil_of_coerce_models {schema : SchemaId}
    (h : coerce (.standardWith fault) text (.listOfModels schema) = .ok v) : v = .list [] := by
  obtain ⟨items, hitems, rfl⟩ := map_eq_ok_iff.mp h
  obtain ⟨content, -, -, ⟨-, rfl⟩ | ⟨-, hpieces⟩⟩ := readList_eq_ok_iff.mp hitems
  · rfl
  · obtain ⟨first, rest, hsplit⟩ := List.exists_cons_of_ne_nil (splitChars_ne_nil ',' content)
    rw [hsplit, List.map_cons] at hpieces
    obtain ⟨v, -, hv, -⟩ := List.forall₂_cons_left_iff.mp hpieces
    cases hv

end Coercion

namespace PropertySlot
open Coercion

/-- Whatever the slot compares values with is itself of the slot's type. -/
structure LimitsConform (s : PropertySlot) : Prop where
  minimum : ∀ b, s.minimum = some b → Conforms s.base.valueType b.value
  maximum : ∀ b, s.maximum = some b → Conforms s.base.valueType b.value
  divisor : ∀ v, s.divisor = some v → Conforms s.base.valueType v
  disallowed : ∀ v ∈ s.disallowed, Conforms s.base.valueType v
  default : ∀ v, s.default = some v → Conforms s.base.valueType v

theorem DeclaredBy.limitsConform {d : SlotDeclaration} {s : PropertySlot}
    (h : s.DeclaredBy (.standardWith fault) d) (htype : s.base.valueType = d.valueType) :
    s.LimitsConform := by
  refine ⟨?_, ?_, ?_, ?_, ?_⟩ <;> rw [htype]
  · intro b hb
    obtain ⟨text, hread, -⟩ := exists_of_rel_some (hb ▸ h.minimum)
    exact conforms_of_coerce hread
  · intro b hb
    obtain ⟨text, hread, -⟩ := exists_of_rel_some (hb ▸ h.maximum)
    exact conforms_of_coerce hread
  · intro v hv
    obtain ⟨text, hread⟩ := exists_of_rel_some (hv ▸ h.divisor)
    exact conforms_of_coerce hread
  · intro v hv
    obtain ⟨text, -, hread⟩ := exists_mem_of_forall₂ h.disallowed hv
    exact conforms_of_coerce hread
  · intro v hv
    obtain ⟨text, hread⟩ := exists_of_rel_some (hv ▸ h.default)
    exact conforms_of_coerce hread

end PropertySlot

/-- The values that a slot of a prototype was compiled with are of its type. -/
theorem Prototype.limitsConform_of_compile {settings : Settings} {store : Store} {id : SchemaId}
    {p : Prototype} (hp : (compile ⟨.standardWith fault, settings⟩ store id).outcome = .ok p)
    {s : PropertySlot} (hs : .property s ∈ p.slots) : s.LimitsConform := by
  obtain ⟨lineage, hl, -⟩ := bases_of_compile hp
  obtain ⟨⟨declaring, d⟩, -, hd⟩ := (merged_of_compile hp hl).mem_iff.mp hs
  have htype := Declaration.valueType_of_compile hd
  have hdeclared := Declaration.compile_declaredBy hd
  cases d with
  | value d => exact hdeclared.2.limitsConform htype
  | link d => exact hdeclared.elim

namespace ValueSource
open Coercion

/-- What is not read off the referrer has been read from text for the slot that it is meant for. -/
theorem conforms_of_resolve {reference referrer : Prototype} {name : String}
    {d : SourceDeclaration} {source : ValueSource}
    (h : compile (.standardWith fault) reference name referrer d = .ok source)
    (hd : d.kind ≠ .referrerSlot) :
    ∃ s, reference.slot? name = some s ∧
      ∀ m v, source.resolve (.standardWith fault) m = .ok (some v) → Conforms s.valueType v := by
  obtain ⟨s, origin, hs, horigin, rfl⟩ := compile_eq_ok_iff.mp h
  refine ⟨s, hs, ?_⟩
  intro m v hv
  unfold compileOrigin at horigin
  split at horigin
  next hkind => exact absurd hkind hd
  next =>
    cases horigin
    rw [resolve] at hv
    split at hv
    next h' => cases h'
    next =>
      split at hv
      next raw _ =>
        obtain ⟨w, hw, hwv⟩ := map_eq_ok_iff.mp hv
        cases hwv
        exact conforms_of_coerce hw
      next => cases hv
    next h' => cases h'
  next =>
    obtain ⟨w, hw, rfl⟩ := map_eq_ok_iff.mp (liftFailure_eq_ok_iff.mp horigin)
    cases hv
    exact conforms_of_coerce hw

end ValueSource

/-- Reading text for a type gives values of the type and nothing else. No text is read as a model or
as a list of lists, and as a list of models only one without elements. So the values that a compiled
slot keeps are of its type, and so are those that a constant and a parameter give. -/
theorem coerce_conforms (fault : String → String) :
    (∀ text T v, coerce (.standardWith fault) text T = .ok v → Conforms T v) ∧
    (∀ text v, (∀ schema, coerce (.standardWith fault) text (.model schema) ≠ .ok v) ∧
      (∀ element, coerce (.standardWith fault) text (.list (.list element)) ≠ .ok v) ∧
      ∀ schema, coerce (.standardWith fault) text (.listOfModels schema) = .ok v → v = .list []) ∧
    (∀ settings store id p,
      (Prototype.compile ⟨.standardWith fault, settings⟩ store id).outcome = .ok p →
      ∀ s, .property s ∈ p.slots → s.LimitsConform) ∧
    ∀ reference name referrer d source,
      ValueSource.compile (.standardWith fault) reference name referrer d = .ok source →
      d.kind = .constant ∨ d.kind = .queryParameter →
      ∃ s, reference.slot? name = some s ∧
        ∀ m v, source.resolve (.standardWith fault) m = .ok (some v) → Conforms s.valueType v := by
  refine ⟨?_, ?_, ?_, ?_⟩
  · intro text T v
    exact Coercion.conforms_of_coerce
  · intro text v
    exact ⟨fun schema => Coercion.coerce_model_ne_ok text schema v,
      fun element => Coercion.coerce_nested_ne_ok text element v,
      fun schema => Coercion.eq_nil_of_coerce_models⟩
  · intro settings store id p hp s
    exact Prototype.limitsConform_of_compile hp
  · intro reference name referrer d source h hd
    have hkind : d.kind ≠ .referrerSlot := by
      intro hpath
      rw [hpath] at hd
      simp at hd
    exact ValueSource.conforms_of_resolve h hkind

/-- A ruler has a length of up to ninety, which is not four, and a unit. -/
def ruler : Schema where
  id := ⟨"ruler"⟩
  slots := [
    { name := "length", valueType := .long, default := some "6", constraints := {
        minimum := some "1", maximum := some "90", disallowed := [" 4 "] } },
    { name := "unit", valueType := .choice ["cm", "in"] }]

def rulers : Store where
  schemas := [ruler]
  distinct := by decide

def shelfOfRulers : Model := ⟨⟨"shelf"⟩, none, [], { queryParameters := [("u", " cm")] }⟩

theorem coerce_conforms_ruler :
    let links := Value.list [.link "urn:a", .link "urn:b"]
    coerce .standard "[ urn:a ,urn:b] " (.list .link) = .ok links ∧ Conforms (.list .link) links ∧
    coerce .standard " [ ]" (.listOfModels ruler.id) = .ok (.list []) ∧
    ∃ p s constant parameter,
      (Prototype.compile ⟨.standard, {}⟩ rulers ruler.id).outcome = .ok p ∧
      .property s ∈ p.slots ∧ s.base.valueType = .long ∧ s.default = some (.long 6) ∧
      s.LimitsConform ∧
      ValueSource.compile .standard p "unit" p ⟨.constant, "in "⟩ = .ok constant ∧
      constant.resolve .standard shelfOfRulers = .ok (some (.choice "in")) ∧
      ValueSource.compile .standard p "unit" p ⟨.queryParameter, "u"⟩ = .ok parameter ∧
      parameter.resolve .standard shelfOfRulers = .ok (some (.choice "cm")) ∧
      ∃ slot, p.slot? "unit" = some slot ∧ Conforms slot.valueType (.choice "in") ∧
        Conforms slot.valueType (.choice "cm") := by
  intro links
  have hlinks : coerce .standard "[ urn:a ,urn:b] " (.list .link) = .ok links := by rfl
  have hnone : coerce .standard " [ ]" (.listOfModels ruler.id) = .ok (.list []) := by rfl
  obtain ⟨p, s, constant, parameter, hp, hs, htype, hdefault, hconstant, hin, hparameter, hcm⟩ :
      ∃ p s constant parameter,
        (Prototype.compile ⟨.standard, {}⟩ rulers ruler.id).outcome = .ok p ∧
        Prototype.slotNamed? p.slots "length" = some (.property s) ∧
        s.base.valueType = .long ∧ s.default = some (.long 6) ∧
        ValueSource.compile .standard p "unit" p ⟨.constant, "in "⟩ = .ok constant ∧
        constant.resolve .standard shelfOfRulers = .ok (some (.choice "in")) ∧
        ValueSource.compile .standard p "unit" p ⟨.queryParameter, "u"⟩ = .ok parameter ∧
        parameter.resolve .standard shelfOfRulers = .ok (some (.choice "cm")) := by
    with_unfolding_all exact ⟨_, _, _, _, rfl, rfl, rfl, rfl, rfl, rfl, rfl, rfl⟩
  obtain ⟨hread, -, hlimits, hsources⟩ :=
    coerce_conforms fun _ => "expected a JSON value"
  have hmem := List.mem_of_find?_eq_some hs
  obtain ⟨slot, hslot, hconforms⟩ := hsources _ _ _ _ _ hconstant (.inl rfl)
  obtain ⟨slot', hslot', hconforms'⟩ := hsources _ _ _ _ _ hparameter (.inr rfl)
  obtain rfl : slot = slot' := Option.some.inj (hslot.symm.trans hslot')
  exact ⟨hlinks, hread _ _ _ hlinks, hnone, p, s, constant, parameter, hp, hmem, htype, hdefault,
    hlimits _ _ _ _ hp s hmem, hconstant, hin, hparameter, hcm, slot, hslot, hconforms _ _ hin,
    hconforms' _ _ hcm⟩

end HyperSchema
