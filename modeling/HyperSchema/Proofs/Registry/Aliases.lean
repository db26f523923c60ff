import HyperSchema.Proofs.Prototype.Keys
import HyperSchema.Proofs.Prototype.Respelled
import HyperSchema.Proofs.Registry.Reached
import HyperSchema.Proofs.ValueSource

namespace HyperSchema

namespace Prototype

variable {p : Prototype} {a r : String}

theorem slot?_congr (h : p.realName? a = p.realName? r) : p.slot? a = p.slot? r := by
  rw [slot?, slot?, h]

/-- The name used shows in the answer only when there is no such slot. -/
theorem validateWrite_congr {s : Slot} (ha : p.slot? a = some s) (hr : p.slot? r = some s)
    (v : Value) : p.validateWrite a v = p.validateWrite r v := by
  rw [validateWrite, validateWrite, ha, hr]

theorem collectionSlot_congr {s : CollectionSlot} (ha : p.slot? a = some (.collection s))
    (hr : p.slot? r = some (.collection s)) : p.collectionSlot a = p.collectionSlot r := by
  rw [collectionSlot, collectionSlot, ha, hr]
  rfl

end Prototype

theorem Model.setSlot_congr {p : Prototype} {a r : String} {v : Value}
    (h : p.validateWrite a v = p.validateWrite r v) {m : Model} (hm : m.schema = p.schema) :
    m.setSlot p a v = m.setSlot p r v := by
  have hsame : ¬p.schema ≠ m.schema := not_not.mpr hm.symm
  rw [setSlot, setSlot, if_neg hsame, if_neg hsame, h]

theorem ValueSource.compile_congr {form : TextForm} {p referrer : Prototype} {a r : String}
    {s : Slot} (ha : p.slot? a = some s) (hr : p.slot? r = some s) (d : SourceDeclaration) :
    compile form p a referrer d = compile form p r referrer d := by
  rw [compile, compile, ha, hr]

namespace Registry
open RegistryM Lineage Prototype

variable {c : Conventions} {store : Store} {reg : Registry} {id : SchemaId} {p : Prototype}
  {a r : String}

/-- A search looks its collection up and does not use the name for anything else. -/
theorem search_congr (h : Coherent c store reg) {referrer : Model}
    (hp : Uncached.prototype c store referrer.schema = .ok p)
    (hslot : p.collectionSlot a = p.collectionSlot r) :
    (search referrer a).exec reg = (search referrer r).exec reg := by
  obtain ⟨hanswer, -⟩ := answers_prototype referrer.schema reg h
  unfold search
  rw [exec_bind, exec_bind]
  rcases hexec : (prototype referrer.schema).exec reg with ⟨y, reg'⟩
  rw [hexec, hp] at hanswer
  subst hanswer
  dsimp only
  rw [hslot]

end Registry

namespace Prototype
open Lineage ValueSource

/-- Two names do the same wherever a slot is called by its name: to write to it, to take a value for
it or from it, to search what it holds, and to make it a key or a comparable. -/
structure Interchangeable (c : Conventions) (store : Store) (p : Prototype) (a r : String) :
    Prop where
  writes : ∀ v, p.validateWrite a v = p.validateWrite r v
  models : ∀ (m : Model) v, m.schema = p.schema → m.setSlot p a v = m.setSlot p r v
  sources : ∀ form referrer d,
    ValueSource.compile form p a referrer d = ValueSource.compile form p r referrer d
  /-- In paths, where names are split and trimmed, if this leaves both as they are. -/
  paths : IsSegment a → IsSegment r → ∀ tail, IsTail tail → ∀ form reference n m,
    (ValueSource.compile form reference n p ⟨.referrerSlot, a ++ tail⟩).toOption.map
        (·.resolve form m) =
      (ValueSource.compile form reference n p ⟨.referrerSlot, r ++ tail⟩).toOption.map
        (·.resolve form m)
  searches : ∀ k, p.slot? r = some (.collection k) → ∀ reg, Registry.Reached c store reg →
    ∀ referrer : Model, referrer.schema = p.schema →
      (Registry.search referrer a).exec reg = (Registry.search referrer r).exec reg
  keys : ∀ lineage, IsLineage store p.schema lineage → ∀ s ∈ lineage,
    a ∈ s.keySlotNames ∨ r ∈ s.keySlotNames → r ∈ p.keySlotNames
  comparables : ∀ lineage, IsLineage store p.schema lineage → ∀ s ∈ lineage,
    a ∈ s.comparableSlotNames ∨ r ∈ s.comparableSlotNames → r ∈ p.comparableSlotNames
  respelled : ∀ f : SchemaId → String → String,
    (∀ i k, f i k = k ∨ (k = a ∧ f i k = r) ∨ (k = r ∧ f i k = a)) →
      (compile c (store.respell f) p.schema).outcome = .ok p

/-- A slot may be called by any of its aliases in place of its name. -/
theorem aliases_interchangeable {c : Conventions} {store : Store} {id : SchemaId} {p : Prototype}
    (hp : (compile c store id).outcome = .ok p) {r a : String} {s : Slot}
    (hs : slotNamed? p.slots r = some s) (ha : a ∈ s.base.aliases) :
    Interchangeable c store p a r := by
  obtain rfl := schema_of_compile hp
  obtain ⟨lineage, hl, -⟩ := bases_of_compile hp
  have hi := indexed_of_compile hp hl
  have hreal : p.realName? r = some r := hi.realName?_iff.mpr ⟨s, hs, .inl rfl⟩
  have halias : p.realName? a = some r := hi.realName?_iff.mpr ⟨s, hs, .inr ha⟩
  have hsame : p.realName? a = p.realName? r := halias.trans hreal.symm
  have hslot : p.slot? r = some s := slot?_of_slotNamed? hs
  have hslot' : p.slot? a = some s := (slot?_congr hsame).trans hslot
  have hwrite (v : Value) : p.validateWrite a v = p.validateWrite r v :=
    validateWrite_congr hslot' hslot v
  have hnamed {names : List String} (h : a ∈ names ∨ r ∈ names) :
      ∃ k ∈ names, p.realName? k = some r := by
    obtain h | h := h
    · exact ⟨a, h, halias⟩
    · exact ⟨r, h, hreal⟩
  refine {
    writes := hwrite
    models := fun m v => Model.setSlot_congr (hwrite v)
    sources := fun form referrer d => ValueSource.compile_congr hslot' hslot d
    paths := ?paths
    searches := ?searches
    keys := ?keys
    comparables := ?comparables
    respelled := ?respelled }
  case paths =>
    intro hsa hsr tail htail form reference n m
    apply resolve_path_congr
    intro origin
    exact ⟨compilePath_congr hsa hsr htail hsame, compilePath_congr hsr hsa htail hsame.symm⟩
  case searches =>
    intro k hk reg hreg referrer href
    rw [← href] at hp
    have hk' : p.slot? a = some (.collection k) := (slot?_congr hsame).trans hk
    exact Registry.search_congr hreg.coherent hp (collectionSlot_congr hk' hk)
  case keys =>
    intro lineage' hl' t ht hk
    exact (hi.keys r).mpr ⟨t, hl'.unique hl ▸ ht, hnamed hk⟩
  case comparables =>
    intro lineage' hl' t ht hk
    exact (hi.comparables r).mpr ⟨t, hl'.unique hl ▸ ht, hnamed hk⟩
  case respelled =>
    intro f hf
    apply compile_respell hp
    intro i k
    obtain hk | ⟨rfl, hk⟩ | ⟨rfl, hk⟩ := hf i k
    · rw [hk]
    · rw [hk, hsame]
    · rw [hk, hsame]

/-- Parcels have an owner by three names, one with a dot in it, and are made up of parts. -/
def parcel : Schema where
  id := ⟨"parcel"⟩
  slots := [
    { name := "owner", valueType := .model ⟨"person"⟩, aliases := ["holder", "the.owner"] },
    { name := "parts", valueType := .list (.model ⟨"parcel"⟩), aliases := ["items"],
      collection := some { and := [⟨"holder", ⟨.referrerSlot, "holder"⟩, .equal, false⟩] } }]
  keySlotNames := ["holder"]
  comparableSlotNames := ["owner"]

def parcels : Store where
  schemas := [parcel]
  distinct := by decide

def ann : Value := .model 0 ⟨⟨"person"⟩, none, [("name", .text "Ann")], {}⟩

def box : Model := ⟨parcel.id, none, [("owner", ann)], {}⟩

def unopened : Registry := { conventions := ⟨.standard, {}⟩, store := parcels }

/-- The two names of the owner change places. -/
def swapped (_ : SchemaId) (k : String) : String :=
  if k = "holder" then "owner" else if k = "owner" then "holder" else k

theorem aliases_interchangeable_parcel : ∃ p s k request,
    (compile ⟨.standard, {}⟩ parcels parcel.id).outcome = .ok p ∧
    slotNamed? p.slots "owner" = some s ∧ "holder" ∈ s.base.aliases ∧
    p.validateWrite "holder" ann = .ok "owner" ∧
    p.validateWrite "holder" ann = p.validateWrite "owner" ann ∧
    (ValueSource.compile .standard p "owner" p ⟨.referrerSlot, "holder" ++ ".name"⟩).toOption.map
        (·.resolve .standard box) =
      (ValueSource.compile .standard p "owner" p ⟨.referrerSlot, "owner" ++ ".name"⟩).toOption.map
        (·.resolve .standard box) ∧
    (parcels.respell swapped).schemas.map (·.keySlotNames) = [["owner"]] ∧
    (compile ⟨.standard, {}⟩ (parcels.respell swapped) parcel.id).outcome = .ok p ∧
    slotNamed? p.slots "parts" = some (.collection k) ∧ "items" ∈ k.base.aliases ∧
    ((Registry.search box "items").exec unopened).1 = .ok request ∧
    (Registry.search box "items").exec unopened = (Registry.search box "parts").exec unopened := by
  obtain ⟨p, s, k, request, hp, hs, ha, hwrite, hk, hka, hrequest⟩ : ∃ p s k request,
      (compile ⟨.standard, {}⟩ parcels parcel.id).outcome = .ok p ∧
      slotNamed? p.slots "owner" = some s ∧ "holder" ∈ s.base.aliases ∧
      p.validateWrite "holder" ann = .ok "owner" ∧
      slotNamed? p.slots "parts" = some (.collection k) ∧ "items" ∈ k.base.aliases ∧
      ((Registry.search box "items").exec unopened).1 = .ok request := by
    with_unfolding_all exact ⟨_, _, _, _, rfl, rfl, .head _, rfl, rfl, .head _, rfl⟩
  have howners := aliases_interchangeable hp hs ha
  have hparts := aliases_interchangeable hp hk hka
  have hholder : IsSegment "holder" := ⟨by decide, by decide, by decide⟩
  have howner : IsSegment "owner" := ⟨by decide, by decide, by decide⟩
  have hname : IsTail ".name" := .inr ⟨"name", by decide⟩
  have hpath := howners.paths hholder howner ".name" hname .standard p "owner" box
  have hswapped : ∀ i k, swapped i k = k ∨ (k = "holder" ∧ swapped i k = "owner") ∨
      (k = "owner" ∧ swapped i k = "holder") := by
    intro i k
    unfold swapped
    by_cases h : k = "holder"
    · exact .inr (.inl ⟨h, if_pos h⟩)
    · by_cases h' : k = "owner"
      · exact .inr (.inr ⟨h', by rw [if_neg h, if_pos h']⟩)
      · exact .inl (by rw [if_neg h, if_neg h'])
  have hreached : Registry.Reached ⟨.standard, {}⟩ parcels unopened := .start parcels []
  have hid : p.schema = parcel.id := schema_of_compile hp
  have hrespelled := howners.respelled swapped hswapped
  rw [hid] at hrespelled
  have hsearch :=
    hparts.searches k (slot?_of_slotNamed? hk) unopened hreached box hid.symm
  exact ⟨p, s, k, request, hp, hs, ha, hwrite, howners.writes ann, hpath, by decide, hrespelled,
    hk, hka, hrequest, hsearch⟩

/-- A path cannot start with the alias that has a dot in it, which parts it in two. -/
theorem dotted_alias_starts_no_path : ∃ p s,
    (compile ⟨.standard, {}⟩ parcels parcel.id).outcome = .ok p ∧
    slotNamed? p.slots "owner" = some s ∧ "the.owner" ∈ s.base.aliases ∧
    (ValueSource.compile .standard p "owner" p ⟨.referrerSlot, "owner.name"⟩).toOption.map
      (·.resolve .standard box) = some (.ok (some (.text "Ann"))) ∧
    (ValueSource.compile .standard p "owner" p ⟨.referrerSlot, "the.owner.name"⟩).toOption.map
      (·.resolve .standard box) = none := by
  with_unfolding_all exact ⟨_, _, rfl, rfl, .tail _ (.head _), rfl, rfl⟩

end Prototype

end HyperSchema
