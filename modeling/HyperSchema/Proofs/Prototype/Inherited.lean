import HyperSchema.Proofs.Prototype.Keys
import HyperSchema.Proofs.Prototype.MostDerived

namespace HyperSchema.Prototype
open Lineage

variable {c : Conventions} {store : Store} {id b : SchemaId} {p q : Prototype}
  {lineage lineage' : List Schema}

theorem mem_bases_iff (hp : (compile c store id).outcome = .ok p) :
    b ∈ p.bases ↔ Derives store id b := by
  refine ⟨derives_of_mem_bases hp, ?_⟩
  intro hb
  obtain ⟨lineage, hl, hids⟩ := bases_of_compile hp
  have hmem := (hl.mem_ids_iff b).mpr (.inr hb)
  rw [hids, List.mem_cons] at hmem
  refine hmem.resolve_left ?_
  rintro rfl
  exact hl.not_derives_self (hids ▸ List.mem_cons_self) hb

theorem sameKinds_of_compile (hp : (compile c store id).outcome = .ok p)
    (hl : IsLineage store id lineage) : SameKinds (declared lineage) :=
  (foldlM_merge_eq_ok_iff.mp (foldlM_merge_of_compile hp hl)).2.1

/-- A slot is declared by the schema itself or by one of its bases. -/
theorem declaring_mem (hp : (compile c store id).outcome = .ok p) {s : Slot} (hs : s ∈ p.slots) :
    s.base.declaring = id ∨ s.base.declaring ∈ p.bases := by
  obtain ⟨lineage, hl, hids⟩ := bases_of_compile hp
  obtain ⟨t, ht, hid⟩ := Option.map_eq_some_iff.mp (declaring_of_compile hp hl hs)
  have hmem : s.base.declaring ∈ ids lineage :=
    hid ▸ List.mem_map_of_mem (List.mem_of_find?_eq_some ht)
  rwa [hids, List.mem_cons] at hmem

/-- No alias is the name of a slot. -/
theorem not_mem_aliases (hp : (compile c store id).outcome = .ok p) {n : String}
    (hn : n ∈ p.slotNames) {s : Slot} (hs : s ∈ p.slots) : n ∉ s.base.aliases := by
  obtain ⟨lineage, hl, -⟩ := bases_of_compile hp
  have hi := indexed_of_compile hp hl
  intro ha
  have hs' := (slotNamed?_iff_mem hp hl).mpr ⟨hs, rfl⟩
  exact (hi.aliasesFree n s.name ((hi.aliases n s.name).mpr ⟨s, hs', ha⟩)).1 hn

/-- Both slots of a name come from declarations within one lineage, where kinds agree. -/
theorem kind_eq_of_base (hp : (compile c store id).outcome = .ok p)
    (hq : (compile c store b).outcome = .ok q) (hb : Derives store id b) {t u : Slot}
    (ht : t ∈ q.slots) (hu : u ∈ p.slots) (hname : u.name = t.name) : u.kind = t.kind := by
  obtain ⟨lineage, hl, -⟩ := bases_of_compile hp
  obtain ⟨lineage', hl', -⟩ := bases_of_compile hq
  obtain ⟨x, hx, hxt⟩ := (merged_of_compile hq hl').mem_iff.mp ht
  obtain ⟨y, hy, hyu⟩ := (merged_of_compile hp hl).mem_iff.mp hu
  -- what counts for the base need not count for the schema, but is declared in its lineage
  obtain ⟨s, hs, hsx⟩ := mem_declared_iff.mp (mem_of_mem_winners hx)
  have hxmem : x ∈ declared lineage := mem_declared_iff.mpr ⟨s, hl.mem_of_derives hl' hb hs, hsx⟩
  have hyx : y.name = x.name := by
    rwa [Declared.name, Declared.name, ← Declaration.name_of_compile hyu,
      ← Declaration.name_of_compile hxt]
  calc u.kind
    _ = y.kind := (Declaration.compile_of_ok hyu).2.1
    _ = x.kind := sameKinds_of_compile hp hl y (mem_of_mem_winners hy) x hxmem hyx
    _ = t.kind := (Declaration.compile_of_ok hxt).2.1.symm

/-- What the bases of a base are is a base, and what is a slot of a base is a slot of that kind, one
of the schema's own, found by its name alone and declared somewhere in the lineage. -/
theorem slots_inherited (hp : (compile c store id).outcome = .ok p) (hb : b ∈ p.bases)
    (hq : (compile c store b).outcome = .ok q) :
    (∀ x ∈ q.bases, x ∈ p.bases) ∧
    ∀ n ∈ q.slotNames, n ∈ p.slotNames ∧
      ∃ t u, slotNamed? q.slots n = some t ∧ slotNamed? p.slots n = some u ∧
        u.kind = t.kind ∧ u.base.owner = id ∧
        (u.base.declaring = id ∨ u.base.declaring ∈ p.bases) ∧
        p.slot? n = some u ∧ ∀ v ∈ p.slots, n ∉ v.base.aliases := by
  have hderives := derives_of_mem_bases hp hb
  refine ⟨?_, ?_⟩
  · intro x hx
    exact (mem_bases_iff hp).mpr (hderives.trans ((mem_bases_iff hq).mp hx))
  · intro n hn
    obtain ⟨lineage, hl, -⟩ := bases_of_compile hp
    obtain ⟨lineage', hl', -⟩ := bases_of_compile hq
    have hnp := mem_slotNames_of_base hp hl hq hl' hderives hn
    obtain ⟨t, ht⟩ := (mem_slotNames_iff hq hl').mp hn
    obtain ⟨u, hu⟩ := (mem_slotNames_iff hp hl).mp hnp
    obtain ⟨htmem, htn⟩ := (slotNamed?_iff_mem hq hl').mp ht
    obtain ⟨humem, hun⟩ := (slotNamed?_iff_mem hp hl).mp hu
    have hkind := kind_eq_of_base hp hq hderives htmem humem (hun.trans htn.symm)
    exact ⟨hnp, t, u, ht, hu, hkind, owner_of_compile hp humem, declaring_mem hp humem,
      slot?_of_slotNamed? hu, fun v hv => not_mem_aliases hp hnp hv⟩

/-- A thermometer is a device along two ways. On the one the label is declared anew, on the other it
is still that of devices, and the name that it had there is now one of the place. -/
def device : Schema where
  id := ⟨"device"⟩
  slots := [{ name := "label", valueType := .text, aliases := ["name"] }]
  links := [{ name := "reset", relation := "reset", method := .post }]

def sensor : Schema where
  id := ⟨"sensor"⟩
  bases := [⟨"device"⟩]
  slots := [{ name := "label", valueType := .text }]

def logger : Schema := { id := ⟨"logger"⟩, bases := [⟨"device"⟩] }

def thermometer : Schema where
  id := ⟨"thermometer"⟩
  bases := [⟨"sensor"⟩, ⟨"logger"⟩]
  slots := [{ name := "place", valueType := .text, aliases := ["name"] }]

def devices : Store where
  schemas := [device, sensor, logger, thermometer]
  distinct := by decide

theorem slots_inherited_thermometer :
    ∃ p q, (compile ⟨.standard, {}⟩ devices thermometer.id).outcome = .ok p ∧
      logger.id ∈ p.bases ∧ (compile ⟨.standard, {}⟩ devices logger.id).outcome = .ok q ∧
      p.slots.map (fun s => (s.name, s.base.declaring)) =
        [("place", thermometer.id), ("label", sensor.id), ("reset", device.id)] ∧
      q.slots.map (fun s => (s.name, s.base.declaring)) =
        [("label", device.id), ("reset", device.id)] ∧
      (∀ x ∈ q.bases, x ∈ p.bases) ∧
      ∃ t u, slotNamed? q.slots "label" = some t ∧ slotNamed? p.slots "label" = some u ∧
        u.kind = t.kind ∧ u.base.owner = thermometer.id ∧
        (u.base.declaring = thermometer.id ∨ u.base.declaring ∈ p.bases) ∧
        p.slot? "label" = some u ∧ ∀ v ∈ p.slots, "label" ∉ v.base.aliases := by
  obtain ⟨p, q, hp, hb, hq, hpslots, hqslots, hlabel⟩ :
      ∃ p q, (compile ⟨.standard, {}⟩ devices thermometer.id).outcome = .ok p ∧
        logger.id ∈ p.bases ∧ (compile ⟨.standard, {}⟩ devices logger.id).outcome = .ok q ∧
        p.slots.map (fun s => (s.name, s.base.declaring)) =
          [("place", thermometer.id), ("label", sensor.id), ("reset", device.id)] ∧
        q.slots.map (fun s => (s.name, s.base.declaring)) =
          [("label", device.id), ("reset", device.id)] ∧ "label" ∈ q.slotNames := by
    with_unfolding_all exact ⟨_, _, rfl, by decide, rfl, by decide, by decide, by decide⟩
  obtain ⟨hbases, hslots⟩ := slots_inherited hp hb hq
  exact ⟨p, q, hp, hb, hq, hpslots, hqslots, hbases, (hslots "label" hlabel).2⟩

end HyperSchema.Prototype
