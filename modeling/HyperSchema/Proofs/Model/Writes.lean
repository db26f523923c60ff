import HyperSchema.Proofs.Prototype.Indexes

namespace HyperSchema

namespace PropertySlot

variable {form : TextForm} {base : SlotBase} {d : SlotDeclaration} {s : PropertySlot}

/-- The checks look at the limits of a slot and not at its default. -/
theorem validate_withDefault (s : PropertySlot) (default : Option Value) (v : Value) :
    { s with default }.validate v = s.validate v := rfl

theorem default_of_compileLimits (h : compileLimits form base d = .ok s) : s.default = none := by
  simp only [compileLimits, bind_eq_ok_iff] at h
  obtain ⟨minimum, -, maximum, -, -, -, divisor, -, -, -, -, -, -, -, disallowed, -, h⟩ := h
  cases h
  rfl

/-- A default passes the checks of its own slot. -/
theorem validate_default (h : compile form base d = .ok s) {v : Value} (hv : s.default = some v) :
    s.validate v = .ok () := by
  simp only [compile, bind_eq_ok_iff] at h
  obtain ⟨limits, hlimits, h⟩ := h
  split at h
  next =>
    cases h
    rw [default_of_compileLimits hlimits] at hv
    cases hv
  next text _ =>
    obtain ⟨value, -, h⟩ := bind_eq_ok_iff.mp h
    split at h
    next hvalid =>
      cases h
      obtain rfl : value = v := Option.some.inj hv
      rw [validate_withDefault, hvalid]
    next => cases h

end PropertySlot

/-- A plain slot is compiled as one, from a value that is declared. -/
theorem Declaration.compile_eq_property {c : Conventions} {owner declaring : SchemaId}
    {d : Declaration} {s : PropertySlot} (h : d.compile c owner declaring = .ok (.property s)) :
    ∃ e, d = .value e ∧
      PropertySlot.compile c.form (Prototype.valueSlotBase owner declaring e) e = .ok s := by
  cases d with
  | link d =>
    obtain ⟨t, -, ht⟩ := map_eq_ok_iff.mp (liftFailure_eq_ok_iff.mp h)
    cases ht
  | value d =>
    change Prototype.compileValueSlot c owner declaring d = .ok (.property s) at h
    unfold Prototype.compileValueSlot at h
    cases hk : d.collection with
    | some k =>
      simp only [hk, liftFailure_eq_ok_iff, map_eq_ok_iff] at h
      obtain ⟨t, -, ht⟩ := h
      cases ht
    | none =>
      simp only [hk, map_eq_ok_iff] at h
      obtain ⟨t, ht, hts⟩ := h
      cases hts
      exact ⟨d, rfl, ht⟩

namespace Prototype

variable {p : Prototype} {name : String}

/-- What is written passes all checks: it goes to a plain slot of a prototype open to writes, and
the slot accepts it. -/
theorem validateWrite_eq_ok_iff {v : Value} {real : String} :
    p.validateWrite name v = .ok real ↔ p.readOnly = false ∧
      ∃ s, p.slot? name = some (.property s) ∧ s.validate v = .ok () ∧ real = s.name := by
  unfold validateWrite
  cases hs : p.slot? name with
  | none => simp
  | some slot =>
    by_cases hread : p.readOnly
    · simp [hread]
    · cases slot with
      | property s =>
        simp only [hread, Bool.false_eq_true, if_false, map_eq_ok_iff, Option.some.injEq,
          Slot.property.injEq, exists_eq_left', true_and]
        exact ⟨fun ⟨_, hv, hreal⟩ => ⟨hv, hreal.symm⟩, fun ⟨hv, hreal⟩ => ⟨(), hv, hreal.symm⟩⟩
      | collection s => simp [hread]
      | link s => simp [hread]

end Prototype

namespace Model
open Prototype

/-- What can be done to a model through its prototype. -/
inductive Write where
  | set (name : String) (v : Value)
  | remove (name : String)

/-- The model after a write. A refused one leaves it as it is. -/
def write (p : Prototype) (m : Model) : Write → Model
  | .set name v =>
    match m.setSlot p name v with
    | .ok m' => m'
    | .error _ => m
  | .remove name => m.removeSlot name

def writes (p : Prototype) (m : Model) (ws : List Write) : Model := ws.foldl (write p) m

/-- The model is one of the prototype, and what it holds under a name is accepted by the plain slot
of this name. -/
structure Valid (p : Prototype) (m : Model) : Prop where
  schema : m.schema = p.schema
  distinct : (m.slots.map Prod.fst).Nodup
  accepted : ∀ e ∈ m.slots, ∃ s, slotNamed? p.slots e.1 = some (.property s) ∧
    s.validate e.2 = .ok ()

section Entries

variable {name n : String} {v : Value} {slots : List (String × Value)}

theorem lookup_insertSlot : (insertSlot name v slots).lookup n =
    if n = name then some v else slots.lookup n := by
  induction slots with
  | nil => rw [insertSlot, lookup_cons_ite]
  | cons e rest ih =>
    obtain ⟨k, u⟩ := e
    by_cases hk : k = name
    · subst hk
      rw [insertSlot, if_pos rfl, lookup_cons_ite, lookup_cons_ite]
      by_cases hn : n = k <;> simp [hn]
    · rw [insertSlot, if_neg hk, lookup_cons_ite, lookup_cons_ite, ih]
      by_cases hn : n = k
      · simp [hn, hk]
      · simp [hn]

theorem mem_insertSlot {e : String × Value} (h : e ∈ insertSlot name v slots) :
    e = (name, v) ∨ e ∈ slots := by
  induction slots with
  | nil => simpa [insertSlot] using h
  | cons f rest ih => grind [insertSlot]

theorem nodup_insertSlot (h : (slots.map Prod.fst).Nodup) :
    ((insertSlot name v slots).map Prod.fst).Nodup := by
  induction slots with
  | nil => simp [insertSlot]
  | cons e rest ih =>
    rw [List.map_cons, List.nodup_cons] at h
    by_cases he : e.1 = name
    · rw [insertSlot, if_pos he, List.map_cons, List.nodup_cons]
      exact ⟨he ▸ h.1, h.2⟩
    · have hnot : e.1 ∉ (insertSlot name v rest).map Prod.fst := by
        intro hmem
        obtain ⟨f, hf, hfe⟩ := List.mem_map.mp hmem
        rcases mem_insertSlot hf with rfl | hf
        · exact he hfe.symm
        · exact h.1 (hfe ▸ List.mem_map_of_mem hf)
      rw [insertSlot, if_neg he, List.map_cons, List.nodup_cons]
      exact ⟨hnot, ih h.2⟩

end Entries

variable {p : Prototype} {m m' : Model} {name : String} {v : Value}

theorem setSlot_eq_ok_iff : m.setSlot p name v = .ok m' ↔ p.schema = m.schema ∧
    ∃ real, p.validateWrite name v = .ok real ∧ m' = m.withSlot real v := by
  unfold setSlot
  by_cases h : p.schema = m.schema
  · simp only [h, ne_eq, not_true_eq_false, if_false, map_eq_ok_iff, true_and, eq_comm (a := m')]
  · simp [h]

theorem write_eq_of_ok (h : m.setSlot p name v = .ok m') : m.write p (.set name v) = m' := by
  rw [write, h]

theorem write_eq_of_error {e : ValidationError} (h : m.setSlot p name v = .error e) :
    m.write p (.set name v) = m := by
  rw [write, h]

theorem slotValue?_withSlot (m : Model) (real n : String) (v : Value) :
    (m.withSlot real v).slotValue? n = if n = real then some v else m.slotValue? n :=
  lookup_insertSlot

/-- One write keeps a model valid: what is put in has passed the checks of its slot. -/
theorem Valid.write (h : Valid p m) (w : Write) : Valid p (m.write p w) := by
  cases w with
  | remove name =>
    have hkept : (m.removeSlot name).slots.Sublist m.slots := List.filter_sublist
    exact {
      schema := h.schema
      distinct := h.distinct.sublist (hkept.map Prod.fst)
      accepted := fun e he => h.accepted e (hkept.subset he) }
  | set name v =>
    cases hset : m.setSlot p name v with
    | error e => rwa [write_eq_of_error hset]
    | ok m' =>
      rw [write_eq_of_ok hset]
      obtain ⟨-, real, hreal, rfl⟩ := setSlot_eq_ok_iff.mp hset
      obtain ⟨-, s, hs, hvalid, rfl⟩ := validateWrite_eq_ok_iff.mp hreal
      refine ⟨h.schema, nodup_insertSlot h.distinct, ?_⟩
      intro e he
      rcases mem_insertSlot he with rfl | he
      · exact ⟨s, slotNamed?_of_slot? hs, hvalid⟩
      · exact h.accepted e he

theorem Valid.writes (h : Valid p m) (ws : List Write) : Valid p (m.writes p ws) := by
  induction ws generalizing m with
  | nil => exact h
  | cons w ws ih => exact ih (h.write w)

/-- Without leave to write, entries can only go. -/
theorem sublist_write (hread : p.readOnly) (m : Model) (w : Write) :
    (m.write p w).slots.Sublist m.slots := by
  cases w with
  | remove name => exact List.filter_sublist
  | set name v =>
    cases hset : m.setSlot p name v with
    | error e => rw [write_eq_of_error hset]
    | ok m' =>
      obtain ⟨-, real, hreal, -⟩ := setSlot_eq_ok_iff.mp hset
      obtain ⟨hopen, -⟩ := validateWrite_eq_ok_iff.mp hreal
      simp [hread] at hopen

theorem sublist_writes (hread : p.readOnly) (m : Model) (ws : List Write) :
    (m.writes p ws).slots.Sublist m.slots := by
  induction ws generalizing m with
  | nil => exact List.Sublist.refl _
  | cons w ws ih => exact (ih (m.write p w)).trans (sublist_write hread m w)

variable {c : Conventions} {store : Store} {id : SchemaId}

theorem names_ofPrototype_sublist (slots : List Slot) :
    (((slots.filterMap Slot.asProperty?).filterMap fun s => s.default.map (s.name, ·)).map
      Prod.fst).Sublist (slots.map Slot.name) := by
  induction slots with
  | nil => exact .slnil
  | cons s slots ih =>
    cases s with
    | collection s => exact ih.cons _
    | link s => exact ih.cons _
    | property s =>
      rw [List.filterMap_cons, Slot.asProperty?, List.filterMap_cons, List.map_cons]
      cases s.default with
      | none => exact ih.cons _
      | some v => exact ih.cons_cons s.name

/-- The declared defaults are what their slots accept. -/
theorem valid_ofPrototype (hp : (compile c store id).outcome = .ok p) :
    Valid p (ofPrototype p) := by
  obtain ⟨lineage, hl, -⟩ := bases_of_compile hp
  have hm := merged_of_compile hp hl
  have hentry {e : String × Value} (he : e ∈ (ofPrototype p).slots) :
      ∃ s, .property s ∈ p.slots ∧ s.name = e.1 ∧ s.default = some e.2 := by
    obtain ⟨s, hs, hd⟩ := List.mem_filterMap.mp he
    obtain ⟨v, hv, rfl⟩ := Option.map_eq_some_iff.mp hd
    exact ⟨s, mem_propertySlots_iff.mp hs, rfl, hv⟩
  refine ⟨rfl, ?_, ?_⟩
  · have hdistinct := nodup_slotNames hp hl
    rw [hm.slotNames] at hdistinct
    exact hdistinct.sublist (names_ofPrototype_sublist p.slots)
  · intro e he
    obtain ⟨s, hs, hname, hdefault⟩ := hentry he
    obtain ⟨x, -, hx⟩ := hm.mem_iff.mp hs
    obtain ⟨d, -, hd⟩ := Declaration.compile_eq_property hx
    exact ⟨s, (slotNamed?_iff_mem hp hl).mpr ⟨hs, hname⟩, PropertySlot.validate_default hd hdefault⟩

/-- Whatever is written to a model through its prototype, or removed, it holds under each name once
a value that the plain slot of this name accepts. A write is refused and changes nothing, or it goes
to a plain slot that accepts the value and changes the entry of this slot alone. Where the prototype
is closed to writes entries can only go. -/
theorem writes_valid (hp : (compile c store id).outcome = .ok p) {ws : List Write}
    (hm : (ofPrototype p).writes p ws = m) :
    (m.slots.map Prod.fst).Nodup ∧
    (∀ n v, (n, v) ∈ m.slots → p.realName? n = some n ∧ p.aliases.lookup n = none ∧
      ∃ s, slotNamed? p.slots n = some (.property s) ∧ s.validate v = .ok ()) ∧
    (∀ name v, (∃ m', m.setSlot p name v = .ok m') ↔
      p.readOnly = false ∧ ∃ s, p.slot? name = some (.property s) ∧ s.validate v = .ok ()) ∧
    (∀ name v e, m.setSlot p name v = .error e → m.write p (.set name v) = m) ∧
    (∀ name v m', m.setSlot p name v = .ok m' → m.write p (.set name v) = m' ∧
      ∃ real, p.realName? name = some real ∧
        ∀ n, m'.slotValue? n = if n = real then some v else m.slotValue? n) ∧
    (p.readOnly → ∀ more, (m.writes p more).slots.Sublist m.slots) := by
  obtain ⟨lineage, hl, -⟩ := bases_of_compile hp
  have hi := indexed_of_compile hp hl
  have hvalid : Valid p m := hm ▸ (valid_ofPrototype hp).writes ws
  refine ⟨hvalid.distinct, ?entries, ?accepts, fun name v e => write_eq_of_error, ?sets,
    fun hread => sublist_writes hread m⟩
  case entries =>
    intro n v he
    obtain ⟨s, hs, hv⟩ := hvalid.accepted (n, v) he
    have hunaliased : p.aliases.lookup n = none := by
      cases ha : p.aliases.lookup n with
      | none => rfl
      | some r => exact absurd ((hi.named n).mpr ⟨_, hs⟩) (hi.aliasesFree n r ha).1
    have hreal : p.realName? n = some n := by rw [realName?, hs]; rfl
    exact ⟨hreal, hunaliased, s, hs, hv⟩
  case accepts =>
    intro name v
    simp only [setSlot_eq_ok_iff, hvalid.schema, validateWrite_eq_ok_iff, true_and]
    refine ⟨?_, ?_⟩
    · rintro ⟨m', real, ⟨hopen, s, hs, hv, -⟩, -⟩
      exact ⟨hopen, s, hs, hv⟩
    · rintro ⟨hopen, s, hs, hv⟩
      exact ⟨_, s.name, ⟨hopen, s, hs, hv, rfl⟩, rfl⟩
  case sets =>
    intro name v m' hset
    obtain ⟨-, real, hreal, rfl⟩ := setSlot_eq_ok_iff.mp hset
    obtain ⟨-, s, hs, -, rfl⟩ := validateWrite_eq_ok_iff.mp hreal
    exact ⟨write_eq_of_ok hset, s.name, realName?_of_slot? hs,
      fun n => slotValue?_withSlot m s.name n v⟩

/-- Articles have a title, also called name, a rank that is not thirteen, pages and a link. -/
def article : Schema where
  id := ⟨"article"⟩
  slots := [
    { name := "title", valueType := .text, aliases := ["name"], default := some "untitled",
      constraints := { maxLength := some 10 } },
    { name := "rank", valueType := .integer, default := some "1",
      constraints := { disallowed := ["13"] } },
    { name := "pages", valueType := .list (.model ⟨"page"⟩), collection := some {} }]
  links := [{ name := "self", relation := "self", method := .get }]

def articles : Store where
  schemas := [article]
  distinct := by decide

/-- The title is written by its other name, the other writes are refused until the rank is gone. -/
def edits : List Write :=
  [.set "name" (.text "Lean"), .set "rank" (.long 13), .set "self" (.link "urn:x"),
    .set "pages" (.list []), .remove "rank"]

theorem writes_valid_article : ∃ p, (compile ⟨.standard, {}⟩ articles article.id).outcome = .ok p ∧
    (ofPrototype p).slots = [("title", .text "untitled"), ("rank", .integer 1)] ∧
    ((ofPrototype p).writes p edits).slots = [("title", .text "Lean")] ∧
    (∀ n v, (n, v) ∈ ((ofPrototype p).writes p edits).slots →
      ∃ s, slotNamed? p.slots n = some (.property s) ∧ s.validate v = .ok ()) ∧
    ∃ m', ((ofPrototype p).writes p edits).setSlot p "rank" (.long 7) = .ok m' ∧
      ∀ n, m'.slotValue? n =
        if n = "rank" then some (.long 7) else ((ofPrototype p).writes p edits).slotValue? n := by
  obtain ⟨p, hp, hstart, hend, hname, m', hm'⟩ : ∃ p,
      (compile ⟨.standard, {}⟩ articles article.id).outcome = .ok p ∧
      (ofPrototype p).slots = [("title", .text "untitled"), ("rank", .integer 1)] ∧
      ((ofPrototype p).writes p edits).slots = [("title", .text "Lean")] ∧
      p.realName? "rank" = some "rank" ∧
      ∃ m', ((ofPrototype p).writes p edits).setSlot p "rank" (.long 7) = .ok m' := by
    with_unfolding_all exact ⟨_, rfl, rfl, rfl, rfl, _, rfl⟩
  have hm : (ofPrototype p).writes p edits = (ofPrototype p).writes p edits := rfl
  obtain ⟨-, hentries, -, -, hsets, -⟩ := writes_valid hp hm
  obtain ⟨-, real, hreal, hslots⟩ := hsets "rank" (.long 7) m' hm'
  obtain rfl : "rank" = real := Option.some.inj (hname.symm.trans hreal)
  exact ⟨p, hp, hstart, hend, fun n v he => (hentries n v he).2.2, m', hm', hslots⟩

end Model

end HyperSchema
