import HyperSchema.Proofs.Prototype.MostDerived
import HyperSchema.Proofs.Slot.Declared

namespace HyperSchema

theorem names_winners (xs : List Declared) :
    (winners xs).map Declared.name = (xs.map Declared.name).eraseDups := by
  -- from the end, since a name is dropped for what stands before it
  induction xs using List.reverseRecOn with
  | nil => rfl
  | append_singleton xs x ih =>
    rw [winners_concat, List.map_append, List.map_singleton, List.eraseDups_append, ← ih]
    by_cases h : x.name ∈ xs.map Declared.name
    · have hnone : [x.name].removeAll (xs.map Declared.name) = [] := by
        simpa [List.removeAll] using h
      rw [if_pos h, hnone, List.eraseDups_nil, List.append_nil]
    · have hsome : [x.name].removeAll (xs.map Declared.name) = [x.name] := by
        simpa [List.removeAll] using h
      rw [if_neg h, hsome, eraseDups_eq_self (List.nodup_singleton _), List.map_append,
        List.map_singleton]

/-- The names of the value slots of a schema and then those of its links, schema by schema. -/
theorem names_declared (lineage : List Schema) : (declared lineage).map Declared.name =
    lineage.flatMap fun s => s.slots.map (·.name) ++ s.links.map (·.name) := by
  simp only [declared, Schema.declarations, List.map_flatMap, List.map_append, List.map_map]
  rfl

namespace Prototype
open Lineage

variable {c : Conventions} {store : Store} {id : SchemaId} {p : Prototype} {lineage : List Schema}

theorem slotNames_of_compile (hp : (compile c store id).outcome = .ok p)
    (hl : IsLineage store id lineage) : p.slotNames =
      (lineage.flatMap fun s => s.slots.map (·.name) ++ s.links.map (·.name)).eraseDups := by
  have hm := merged_of_compile hp hl
  rw [hm.slotNames, hm.names, names_winners, names_declared]

/-- The slot under a name is what the first declaration of the name compiles to. -/
theorem slotNamed?_eq_some_iff_first (hp : (compile c store id).outcome = .ok p)
    (hl : IsLineage store id lineage) {n : String} {slot : Slot} :
    slotNamed? p.slots n = some slot ↔
      ∃ x, (declared lineage).find? (·.name = n) = some x ∧ x.compile c id = .ok slot := by
  rw [(merged_of_compile hp hl).slotNamed?_eq_some_iff]
  refine exists_congr fun x => ?_
  rw [mem_winners_iff, ← and_assoc]
  refine and_congr_left fun _ => ⟨?_, ?_⟩
  · rintro ⟨hx, rfl⟩
    exact hx
  · intro hx
    obtain rfl : x.name = n := by simpa using List.find?_some hx
    exact ⟨hx, rfl⟩

/-- The declaration that counts is the only one of its name in the first schema that has one. -/
theorem exists_declarer (hnames : ∀ s ∈ lineage, (s.declarations.map Declaration.name).Nodup)
    (hl : IsLineage store id lineage) {x : Declared} (hx : x ∈ winners (declared lineage)) :
    ∃ s, lineage.find? (·.declares x.name) = some s ∧ s.id = x.1 ∧
      ∀ e, e ∈ s.declarations ∧ e.name = x.name ↔ e = x.2 := by
  obtain ⟨s, hs, hid⟩ := Option.map_eq_some_iff.mp (find?_declares_of_mem_winners hx)
  have hmem := List.mem_of_find?_eq_some hs
  obtain ⟨t, ht, htx, hxt⟩ := mem_declared_iff.mp (mem_of_mem_winners hx)
  have hkept := hl.kept s hmem
  rw [hid, ← htx, hl.kept t ht, Option.some.injEq] at hkept
  subst hkept
  refine ⟨_, hs, hid, fun e => ⟨?_, ?_⟩⟩
  · intro ⟨he, hname⟩
    exact List.inj_on_of_nodup_map (hnames _ ht) he hxt hname
  · rintro rfl
    exact ⟨hxt, rfl⟩

/-- The slots are those of the first declarations: the names as declared with repetitions dropped,
each slot with what its one declaration says, of the kind that all others of the name have too. -/
theorem slots_firstWins (hp : (compile c store id).outcome = .ok p) :
    ∃ lineage, IsLineage store id lineage ∧ ids lineage = id :: p.bases ∧
      p.slotNames =
        (lineage.flatMap fun s => s.slots.map (·.name) ++ s.links.map (·.name)).eraseDups ∧
      (∀ slot ∈ p.slots, ∃ s d,
        lineage.find? (·.declares slot.name) = some s ∧
        (∀ e, e ∈ s.declarations ∧ e.name = slot.name ↔ e = d) ∧
        slot.base = {
          name := d.name
          owner := id
          declaring := s.id
          valueType := d.valueType
          title := d.title
          description := d.description
          aliases := Text.nameSet d.aliases } ∧
        slot.DeclaredBy c d ∧ d.compile c id s.id = .ok slot ∧
        ∀ t ∈ lineage, ∀ e ∈ t.declarations, e.name = slot.name → e.kind = slot.kind) ∧
      ∀ store' lineage' q, (compile c store' id).outcome = .ok q → IsLineage store' id lineage' →
        ∀ n, (declared lineage).find? (·.name = n) = (declared lineage').find? (·.name = n) →
          slotNamed? p.slots n = slotNamed? q.slots n := by
  obtain ⟨lineage, hl, hids⟩ := bases_of_compile hp
  obtain ⟨hnames, hkinds, hm⟩ := foldlM_merge_eq_ok_iff.mp (foldlM_merge_of_compile hp hl)
  refine ⟨lineage, hl, hids, slotNames_of_compile hp hl, ?_, ?_⟩
  · intro slot hslot
    obtain ⟨⟨declaring, d⟩, hx, hc⟩ := hm.mem_iff.mp hslot
    obtain ⟨s, hs, rfl, honly⟩ := exists_declarer (fun s hs => (hnames s hs).1) hl hx
    have hname : slot.name = d.name := Declaration.name_of_compile hc
    obtain ⟨hbase, hkind, -, -⟩ := Declaration.compile_of_ok hc
    rw [Declaration.base_eq] at hbase
    rw [hname]
    refine ⟨s, d, hs, honly, hbase, Declaration.compile_declaredBy hc, hc, ?_⟩
    intro t ht e he hed
    rw [hkind]
    exact hkinds (t.id, e) (mem_declared_iff.mpr ⟨t, ht, rfl, he⟩) _ (mem_of_mem_winners hx) hed
  · intro store' lineage' q hq hl' n hsame
    apply Option.ext
    intro slot
    rw [slotNamed?_eq_some_iff_first hp hl, slotNamed?_eq_some_iff_first hq hl', hsame]

/-- A truck has wheels of its own and a maker under another relation. -/
def wheels : SlotDeclaration :=
  { name := "wheels", valueType := .integer, constraints := { minimum := some "6" } }

def truck : Schema where
  id := ⟨"truck"⟩
  bases := [⟨"vehicle"⟩]
  slots := [{ name := "load", valueType := .long }, wheels]
  links := [{ name := "maker", relation := "made-by", method := .get }]

def vehicle (type : ValueType) : Schema where
  id := ⟨"vehicle"⟩
  slots := [{ name := "wheels", valueType := type }, { name := "plate", valueType := .text }]
  links := [{ name := "maker", relation := "maker", method := .get }]

def vehicles (type : ValueType) : Store where
  schemas := [vehicle type, truck]
  distinct := by simp [vehicle, truck]

/-- What vehicles say of their wheels shows in no truck. -/
theorem slots_firstWins_truck :
    ∃ p q, (compile ⟨.standard, {}⟩ (vehicles .long) truck.id).outcome = .ok p ∧
      (compile ⟨.standard, {}⟩ (vehicles .text) truck.id).outcome = .ok q ∧
      p.slotNames = ["load", "wheels", "maker", "plate"] ∧
      (∀ slot ∈ p.slots, slot.name = "wheels" →
        slot.base.declaring = truck.id ∧ slot.DeclaredBy ⟨.standard, {}⟩ (.value wheels)) ∧
      slotNamed? p.slots "wheels" = slotNamed? q.slots "wheels" := by
  obtain ⟨p, hp⟩ : ∃ p, (compile ⟨.standard, {}⟩ (vehicles .long) truck.id).outcome = .ok p := by
    with_unfolding_all exact ⟨_, rfl⟩
  obtain ⟨q, hq⟩ : ∃ q, (compile ⟨.standard, {}⟩ (vehicles .text) truck.id).outcome = .ok q := by
    with_unfolding_all exact ⟨_, rfl⟩
  have hlp : IsLineage (vehicles .long) truck.id [truck, vehicle .long] :=
    (isLineage_cons_iff (by decide)).mpr (by decide +kernel)
  have hlq : IsLineage (vehicles .text) truck.id [truck, vehicle .text] :=
    (isLineage_cons_iff (by decide)).mpr (by decide +kernel)
  obtain ⟨lineage, hl, -, hnames, hslots, hsame⟩ := slots_firstWins hp
  obtain rfl := hl.unique hlp
  refine ⟨p, q, hp, hq, hnames.trans (by decide), ?_, hsame _ _ q hq hlq "wheels" rfl⟩
  intro slot hslot hname
  obtain ⟨s, d, hs, honly, hbase, hdeclared, -⟩ := hslots slot hslot
  rw [hname] at hs honly
  have hfirst : [truck, vehicle .long].find? (·.declares "wheels") = some truck := by decide
  obtain rfl : truck = s := Option.some.inj (hfirst.symm.trans hs)
  have hwheels : .value wheels ∈ truck.declarations := by simp [Schema.declarations, truck]
  obtain rfl : .value wheels = d := (honly (.value wheels)).mp ⟨hwheels, rfl⟩
  exact ⟨by rw [hbase], hdeclared⟩

end Prototype

end HyperSchema
