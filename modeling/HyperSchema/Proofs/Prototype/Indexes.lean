import HyperSchema.Proofs.Prototype.Bases
import HyperSchema.Proofs.Prototype.WellFormed
import HyperSchema.Proofs.Slot.Declared

namespace HyperSchema

namespace Slot

theorem kind_eq_link_iff {s : Slot} : s.kind = .link ↔ ∃ l, s = .link l := by
  cases s <;> simp [kind]

end Slot

theorem ValueType.isModel_iff {t : ValueType} : t.isModel ↔ ∃ schema, t = .model schema := by
  cases t <;> simp [isModel]

namespace Prototype
open Lineage

/-- What the tables of a prototype say of its slots and of the declarations of its lineage. -/
structure Indexed (c : Conventions) (lineage : List Schema) (p : Prototype) : Prop where
  distinct : p.slotNames.Nodup
  named : ∀ n, n ∈ p.slotNames ↔ ∃ s, slotNamed? p.slots n = some s
  listed : p.slots.map Slot.name = p.slotNames
  own : ∀ n s, slotNamed? p.slots n = some s → s.name = n ∧ s.base.owner = p.schema
  aliases : ∀ a n, p.aliases.lookup a = some n ↔
    ∃ s, slotNamed? p.slots n = some s ∧ a ∈ s.base.aliases
  /-- No alias stands twice. -/
  aliasesDistinct : (p.aliases.map Prod.fst).Nodup
  aliasesFree : ∀ a n, p.aliases.lookup a = some n →
    a ∉ p.slotNames ∧ a ∉ builtInNames ∧ a ∉ c.settings.reservedSlotNames
  relations : ∀ r n, (r, n) ∈ p.relations ↔
    ∃ l, slotNamed? p.slots n = some (.link l) ∧ l.relation = r
  /-- No relation stands twice, and no link. -/
  relationsDistinct : (p.relations.map Prod.fst).Nodup ∧ (p.relations.map Prod.snd).Nodup
  byRelation : ∀ r l, p.linkByRelation? r = some l ↔
    slotNamed? p.slots l.name = some (.link l) ∧ l.relation = r
  keys : ∀ n, n ∈ p.keySlotNames ↔ ∃ s ∈ lineage, ∃ k ∈ s.keySlotNames, p.realName? k = some n
  keysKnown : ∀ s ∈ lineage, ∀ k ∈ s.keySlotNames, ∃ n ∈ p.slotNames, p.realName? k = some n
  comparables : ∀ n, n ∈ p.comparableSlotNames ↔
    ∃ s ∈ lineage, ∃ k ∈ s.comparableSlotNames, p.realName? k = some n
  searchables : ∀ n, n ∈ p.searchableSlotNames ↔
    ∃ s declaring d, slotNamed? p.slots n = some (.property s) ∧
      Wins lineage (declaring, .value d) ∧ d.name = n ∧ d.searchable
  ascending : p.keySlotNames.Pairwise (· < ·) ∧ p.comparableSlotNames.Pairwise (· < ·) ∧
    p.searchableSlotNames.Pairwise (· < ·)
  linkBindings : ∀ n s, slotNamed? p.slots n = some (.property s) →
    ∀ link, s.linkBinding = some link → (∃ schema, s.base.valueType = .model schema) ∧
      ∃ l, slotNamed? p.slots link = some (.link l)

variable {p : Prototype}

theorem mem_propertySlots_iff {s : PropertySlot} :
    s ∈ p.propertySlots ↔ .property s ∈ p.slots := by
  simp [propertySlots, List.mem_filterMap, Slot.asProperty?_eq_some_iff]

theorem mem_declaredAliases_iff {table : List Slot} {n a : String} :
    (n, a) ∈ declaredAliases table ↔ ∃ s ∈ table, s.name = n ∧ a ∈ s.base.aliases := by
  simp only [declaredAliases, List.mem_flatMap, List.mem_map, Prod.mk.injEq]
  refine ⟨?_, ?_⟩
  · rintro ⟨s, hs, b, hb, hn, rfl⟩
    exact ⟨s, hs, hn, hb⟩
  · rintro ⟨s, hs, hn, ha⟩
    exact ⟨s, hs, a, ha, hn, rfl⟩

/-- A real name is that of a slot: the name itself, or the one that it is an alias of. -/
theorem realName?_eq_some_iff {k n : String} : p.realName? k = some n ↔
    ((slotNamed? p.slots k).isSome ∧ n = k) ∨
      (slotNamed? p.slots k = none ∧ p.aliases.lookup k = some n) := by
  rw [realName?]
  cases slotNamed? p.slots k <;> simp [eq_comm]

/-- The tables as they were filled, one after the other. -/
theorem tables_of_compile {c : Conventions} {store : Store} {id : SchemaId} {lineage : List Schema}
    (hp : (compile c store id).outcome = .ok p) (hl : IsLineage store id lineage) :
    AliasesWell c.settings (declared lineage) ∧
      p.aliases = (declaredAliases p.slots).map Prod.swap ∧
      (∀ s ∈ p.propertySlots, checkLinkBinding id p.slots s = .ok ()) ∧
      (∀ s ∈ lineage, ∀ k ∈ s.keySlotNames, p.isKnown k) ∧
      p.keySlotNames = p.realNames (lineage.flatMap (·.keySlotNames)) ∧
      p.comparableSlotNames = p.realNames (lineage.flatMap (·.comparableSlotNames)) := by
  have hm := merged_of_compile hp hl
  obtain ⟨s, bases, rfl, hl', h⟩ := compile_eq_ok_iff.mp hp
  obtain ⟨table, aliases, -, haliases, hlinks, h⟩ := assemble_eq_ok_iff.mp h
  obtain ⟨hkeys, rfl⟩ := withNames_eq_ok_iff.mp h
  obtain rfl := hl.unique hl'
  obtain ⟨hwell, hresult⟩ := hm.indexAliases_eq_ok_iff.mp haliases
  exact ⟨hwell, hresult, forM_eq_ok_iff.mp hlinks, hkeys, rfl, rfl⟩

section Compiled

variable {c : Conventions} {store : Store} {id : SchemaId} {lineage : List Schema}
  (hp : (compile c store id).outcome = .ok p) (hl : IsLineage store id lineage)

include hp hl

theorem nodup_slotNames : p.slotNames.Nodup := by
  have hm := merged_of_compile hp hl
  rw [hm.slotNames, hm.names]
  exact nodup_winners _

theorem mem_slotNames_iff {n : String} :
    n ∈ p.slotNames ↔ ∃ s, slotNamed? p.slots n = some s := by
  rw [(merged_of_compile hp hl).slotNames, ← isSome_slotNamed?_iff, Option.isSome_iff_exists]

theorem slotNamed?_iff_mem {n : String} {s : Slot} :
    slotNamed? p.slots n = some s ↔ s ∈ p.slots ∧ s.name = n := by
  have hnodup := nodup_slotNames hp hl
  rw [(merged_of_compile hp hl).slotNames] at hnodup
  exact find?_eq_some_iff_of_nodup hnodup

theorem nodup_aliases : (p.aliases.map Prod.fst).Nodup := by
  obtain ⟨hwell, haliases, -⟩ := tables_of_compile hp hl
  rw [haliases, List.map_map]
  exact (merged_of_compile hp hl).nodup_declaredAliases_iff.mpr hwell.unshared

theorem lookup_aliases_iff {a n : String} : p.aliases.lookup a = some n ↔
    ∃ s, slotNamed? p.slots n = some s ∧ a ∈ s.base.aliases := by
  obtain ⟨-, haliases, -⟩ := tables_of_compile hp hl
  have hmem : (a, n) ∈ p.aliases ↔ (n, a) ∈ declaredAliases p.slots := by
    rw [haliases, List.mem_map]
    simp
  rw [lookup_eq_some_iff_of_nodup (nodup_aliases hp hl), hmem, mem_declaredAliases_iff]
  simp only [slotNamed?_iff_mem hp hl, and_assoc]

theorem alias_free {a n : String} (h : p.aliases.lookup a = some n) :
    a ∉ p.slotNames ∧ a ∉ builtInNames ∧ a ∉ c.settings.reservedSlotNames := by
  have hm := merged_of_compile hp hl
  obtain ⟨hwell, -⟩ := tables_of_compile hp hl
  obtain ⟨s, hs, ha⟩ := (lookup_aliases_iff hp hl).mp h
  obtain ⟨x, hx, hc⟩ := hm.mem_iff.mp (List.mem_of_find?_eq_some hs)
  rw [Declaration.aliases_of_compile hc, Text.mem_nameSet] at ha
  rw [hm.slotNames]
  exact ⟨mt hm.mem_names_iff.mp (hwell.unnamed x hx a ha), hwell.unreserved x hx a ha⟩

theorem relations_of_compile : p.relations = SlotTable.relationsOf p.slots :=
  congrArg SlotTable.relations (merged_of_compile hp hl).indexed

theorem mem_relations_iff {r n : String} : (r, n) ∈ p.relations ↔
    ∃ l, slotNamed? p.slots n = some (.link l) ∧ l.relation = r := by
  rw [relations_of_compile hp hl, SlotTable.mem_relationsOf_iff]
  simp only [slotNamed?_iff_mem hp hl, Slot.relation?_eq_some_iff]
  refine ⟨?_, ?_⟩
  · rintro ⟨_, hs, ⟨l, rfl, hr⟩, hn⟩
    exact ⟨l, ⟨hs, hn⟩, hr⟩
  · rintro ⟨l, ⟨hs, hn⟩, hr⟩
    exact ⟨.link l, hs, ⟨l, rfl, hr⟩, hn⟩

theorem nodup_relations : (p.relations.map Prod.fst).Nodup ∧ (p.relations.map Prod.snd).Nodup := by
  have hnames := nodup_slotNames hp hl
  rw [(merged_of_compile hp hl).slotNames] at hnames
  rw [relations_of_compile hp hl]
  exact ⟨SlotTable.map_fst_relationsOf p.slots ▸ (merged_of_compile hp hl).relations,
    hnames.sublist (SlotTable.map_snd_relationsOf_sublist p.slots)⟩

theorem linkByRelation?_iff {r : String} {l : LinkSlot} : p.linkByRelation? r = some l ↔
    slotNamed? p.slots l.name = some (.link l) ∧ l.relation = r := by
  have hlookup {n : String} : p.relations.lookup r = some n ↔ (r, n) ∈ p.relations :=
    lookup_eq_some_iff_of_nodup (nodup_relations hp hl).1
  simp only [linkByRelation?, Option.bind_eq_some_iff, hlookup, Slot.asLink?_eq_some_iff]
  refine ⟨?_, ?_⟩
  · rintro ⟨_, ⟨n, hn, hs⟩, rfl⟩
    obtain ⟨m, hm, hr⟩ := (mem_relations_iff hp hl).mp hn
    obtain rfl : l = m := by simpa using hs.symm.trans hm
    obtain ⟨hmem, -⟩ := (slotNamed?_iff_mem hp hl).mp hs
    exact ⟨(slotNamed?_iff_mem hp hl).mpr ⟨hmem, rfl⟩, hr⟩
  · intro ⟨hs, hr⟩
    exact ⟨_, ⟨l.name, (mem_relations_iff hp hl).mpr ⟨l, hs, hr⟩, hs⟩, rfl⟩

theorem mem_slotNames_of_realName? {k n : String} (h : p.realName? k = some n) :
    n ∈ p.slotNames := by
  rw [mem_slotNames_iff hp hl]
  obtain ⟨hk, rfl⟩ | ⟨-, hk⟩ := realName?_eq_some_iff.mp h
  · exact Option.isSome_iff_exists.mp hk
  · obtain ⟨s, hs, -⟩ := (lookup_aliases_iff hp hl).mp hk
    exact ⟨s, hs⟩

theorem searchables_of_compile :
    p.searchableSlotNames = (SlotTable.ofSlots p.slots).searchableSlotNames :=
  congrArg SlotTable.searchableSlotNames (merged_of_compile hp hl).indexed

theorem mem_searchableSlotNames_iff {n : String} : n ∈ p.searchableSlotNames ↔
    ∃ s declaring d, slotNamed? p.slots n = some (.property s) ∧
      Wins lineage (declaring, .value d) ∧ d.name = n ∧ d.searchable := by
  have hm := merged_of_compile hp hl
  have hfilled : n ∈ p.searchableSlotNames ↔
      ∃ s, slotNamed? p.slots n = some (.property s) ∧ s.searchable := by
    rw [searchables_of_compile hp hl, SlotTable.mem_searchableSlotNames_iff]
    simp only [slotNamed?_iff_mem hp hl]
    refine ⟨?_, ?_⟩
    · rintro ⟨s, hs, hsearchable, hn⟩
      exact ⟨s, ⟨hs, hn⟩, hsearchable⟩
    · rintro ⟨s, ⟨hs, hn⟩, hsearchable⟩
      exact ⟨s, hs, hsearchable, hn⟩
  rw [hfilled]
  refine exists_congr fun s => ?_
  refine ⟨?_, ?_⟩
  · rintro ⟨hs, hsearchable⟩
    obtain ⟨⟨declaring, d⟩, hx, hxn, hc⟩ := hm.slotNamed?_eq_some_iff.mp hs
    have hd := Declaration.compile_declaredBy hc
    cases d with
    | link d => exact hd.elim
    | value d => exact ⟨declaring, d, hs, wins_iff.mpr hx, hxn, hd.2.searchable ▸ hsearchable⟩
  · rintro ⟨declaring, d, hs, hwins, rfl, hsearchable⟩
    obtain ⟨x, hx, hxd, hc⟩ := hm.slotNamed?_eq_some_iff.mp hs
    obtain rfl := winner_unique hx (wins_iff.mp hwins) hxd
    have hd := Declaration.compile_declaredBy hc
    exact ⟨hs, hd.2.searchable.trans hsearchable⟩

theorem ascending_searchableSlotNames : p.searchableSlotNames.Pairwise (· < ·) := by
  rw [searchables_of_compile hp hl]
  exact Text.ascending_nameSet _

theorem linkBinding_of_compile {n link : String} {s : PropertySlot}
    (hs : slotNamed? p.slots n = some (.property s)) (hlink : s.linkBinding = some link) :
    (∃ schema, s.base.valueType = .model schema) ∧
      ∃ l, slotNamed? p.slots link = some (.link l) := by
  obtain ⟨-, -, hlinks, -⟩ := tables_of_compile hp hl
  have hmem := mem_propertySlots_iff.mpr (List.mem_of_find?_eq_some hs)
  obtain ⟨hmodel, t, ht, hkind⟩ := checkLinkBinding_eq_ok_iff.mp (hlinks s hmem) link hlink
  obtain ⟨l, rfl⟩ := Slot.kind_eq_link_iff.mp hkind
  exact ⟨ValueType.isModel_iff.mp hmodel, l, ht⟩

theorem indexed_of_compile : Indexed c lineage p := by
  obtain ⟨-, -, -, hknown, hkeys, hcomparables⟩ := tables_of_compile hp hl
  have hmem {n : String} {s : Slot} := slotNamed?_iff_mem hp hl (n := n) (s := s)
  exact {
    distinct := nodup_slotNames hp hl
    named := fun n => mem_slotNames_iff hp hl
    listed := (merged_of_compile hp hl).slotNames.symm
    own := fun n s hs => by
      rw [owner_of_compile hp (hmem.mp hs).1, schema_of_compile hp]
      exact ⟨(hmem.mp hs).2, rfl⟩
    aliases := fun a n => lookup_aliases_iff hp hl
    aliasesDistinct := nodup_aliases hp hl
    aliasesFree := fun a n h => alias_free hp hl h
    relations := fun r n => mem_relations_iff hp hl
    relationsDistinct := nodup_relations hp hl
    byRelation := fun r l => linkByRelation?_iff hp hl
    keys := fun n => by rw [hkeys, mem_realNames_flatMap_iff]
    keysKnown := fun s hs k hk => by
      obtain ⟨n, hn⟩ := Option.isSome_iff_exists.mp (hknown s hs k hk)
      exact ⟨n, mem_slotNames_of_realName? hp hl hn, hn⟩
    comparables := fun n => by rw [hcomparables, mem_realNames_flatMap_iff]
    searchables := fun n => mem_searchableSlotNames_iff hp hl
    ascending := ⟨hkeys ▸ Text.ascending_nameSet _, hcomparables ▸ Text.ascending_nameSet _,
      ascending_searchableSlotNames hp hl⟩
    linkBindings := fun n s hs link => linkBinding_of_compile hp hl hs }

end Compiled

/-- In every prototype the tables agree with its slots and with the declarations of its lineage. -/
theorem tables_agree {c : Conventions} {store : Store} {id : SchemaId}
    (hp : (compile c store id).outcome = .ok p) :
    p.schema = id ∧ ∃ lineage, IsLineage store id lineage ∧ ids lineage = id :: p.bases ∧
      Indexed c lineage p := by
  obtain ⟨lineage, hl, hids⟩ := bases_of_compile hp
  exact ⟨schema_of_compile hp, lineage, hl, hids, indexed_of_compile hp hl⟩

/-- Items are known by their code, also called id. A book is an item that is not looked for by its
shelf and that has an author, filled by the link named by. -/
def book : Schema where
  id := ⟨"book"⟩
  bases := [⟨"item"⟩]
  slots := [{ name := "shelf", valueType := .text },
    { name := "author", valueType := .model ⟨"person"⟩, linkBinding := some "by" }]
  links := [{ name := "by", relation := "author", method := .get }]

def shelves : Store where
  schemas := [book, {
    id := ⟨"item"⟩
    slots := [{ name := "code", valueType := .text, aliases := ["id"], searchable := true },
      { name := "shelf", valueType := .text, searchable := true }]
    keySlotNames := ["id"]
    comparableSlotNames := ["shelf", "weight"] }]
  distinct := by decide

theorem tables_agree_book : ∃ p, (compile ⟨.standard, {}⟩ shelves book.id).outcome = .ok p ∧
    p.slotNames = ["shelf", "author", "by", "code"] ∧ p.aliases.lookup "id" = some "code" ∧
    p.keySlotNames = ["code"] ∧ p.comparableSlotNames = ["shelf"] ∧
    p.searchableSlotNames = ["code"] ∧ p.relations = [("author", "by")] ∧ p.schema = book.id ∧
    ∃ lineage, IsLineage shelves book.id lineage ∧ ids lineage = book.id :: p.bases ∧
      Indexed ⟨.standard, {}⟩ lineage p := by
  obtain ⟨p, hp, htables⟩ : ∃ p, (compile ⟨.standard, {}⟩ shelves book.id).outcome = .ok p ∧
    p.slotNames = ["shelf", "author", "by", "code"] ∧ p.aliases.lookup "id" = some "code" ∧
    p.keySlotNames = ["code"] ∧ p.comparableSlotNames = ["shelf"] ∧
    p.searchableSlotNames = ["code"] ∧ p.relations = [("author", "by")] := by
      with_unfolding_all exact ⟨_, rfl, by decide +kernel⟩
  obtain ⟨hnames, haliases, hkeys, hcomparables, hsearchables, hrelations⟩ := htables
  exact ⟨p, hp, hnames, haliases, hkeys, hcomparables, hsearchables, hrelations, tables_agree hp⟩

end Prototype

end HyperSchema
