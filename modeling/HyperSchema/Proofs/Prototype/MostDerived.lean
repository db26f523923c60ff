import HyperSchema.Proofs.Prototype.Bases
import HyperSchema.Proofs.Prototype.Checks

namespace HyperSchema

def Schema.declares (s : Schema) (n : String) : Bool := s.declarations.any (·.name = n)

namespace Prototype
open Lineage

/-- No schema that declares the slot derives from the one that the slot was taken from. -/
def MostDerived (store : Store) (lineage : List Schema) (slot : Slot) : Prop :=
  ∀ t ∈ lineage, t.declares slot.name → ¬Derives store t.id slot.base.declaring

/-- The first declaration of the name stands before one that overrides it. -/
def OverrideUndone (store : Store) (lineage : List Schema) (n : String) : Prop :=
  ∃ before s after, lineage = before ++ s :: after ∧ s.declares n ∧
    (∀ t ∈ before, t.declares n = false) ∧ ∃ t ∈ after, t.declares n ∧ Derives store t.id s.id

variable {c : Conventions} {store : Store} {id : SchemaId} {p : Prototype} {lineage : List Schema}

/-- The declaration that counts is that of the first schema declaring the name. -/
theorem find?_declares_of_mem_winners {x : Declared} (hx : x ∈ winners (declared lineage)) :
    (lineage.find? (·.declares x.name)).map (·.id) = some x.1 := by
  rw [mem_winners_iff] at hx
  induction lineage with
  | nil => simp [declared] at hx
  | cons s l ih =>
    rw [declared_cons, List.find?_append] at hx
    cases hs : (s.declarations.map (s.id, ·)).find? (Declared.name · = x.name) with
    | some y =>
      -- declared by the first schema, so that is the one on both sides
      rw [hs, Option.some_or, Option.some.injEq] at hx
      subst hx
      obtain ⟨d, hd, rfl⟩ := List.mem_map.mp (List.mem_of_find?_eq_some hs)
      have hdeclares : s.declares (Declared.name (s.id, d)) := by
        exact List.any_eq_true.mpr ⟨d, hd, decide_eq_true rfl⟩
      rw [List.find?_cons, hdeclares]
      rfl
    | none =>
      rw [hs, Option.none_or] at hx
      have hdeclares : s.declares x.name = false := by
        apply List.any_eq_false.mpr
        intro d hd
        exact List.find?_eq_none.mp hs (s.id, d) (List.mem_map_of_mem hd)
      rw [List.find?_cons, hdeclares]
      exact ih hx

theorem declaring_of_compile (hp : (compile c store id).outcome = .ok p)
    (hl : IsLineage store id lineage) {slot : Slot} (hslot : slot ∈ p.slots) :
    (lineage.find? (·.declares slot.name)).map (·.id) = some slot.base.declaring := by
  obtain ⟨x, hx, hc⟩ := (merged_of_compile hp hl).mem_iff.mp hslot
  rw [Declaration.name_of_compile hc, (Declaration.compile_of_ok hc).1,
    Declaration.base_declaring, ← Declared.name, find?_declares_of_mem_winners hx]

theorem exists_slot_of_compile (hp : (compile c store id).outcome = .ok p)
    (hl : IsLineage store id lineage) {s : Schema} (hs : s ∈ lineage) {n : String}
    (hn : s.declares n) : ∃ slot ∈ p.slots, slot.name = n := by
  have hm := merged_of_compile hp hl
  obtain ⟨d, hd, hdn⟩ := List.any_eq_true.mp hn
  rw [decide_eq_true_eq] at hdn
  have hmem : (s.id, d) ∈ declared lineage := mem_declared_iff.mpr ⟨s, hs, rfl, hd⟩
  exact List.mem_map.mp (hm.mem_names_iff.mpr (List.mem_map.mpr ⟨_, hmem, hdn⟩))

/-- Every override counts exactly when none stands behind what it overrides. -/
theorem forall_mostDerived_iff (hp : (compile c store id).outcome = .ok p)
    (hl : IsLineage store id lineage) :
    (∀ slot ∈ p.slots, MostDerived store lineage slot) ↔ ∀ n, ¬OverrideUndone store lineage n := by
  refine ⟨?_, ?_⟩
  · rintro h n ⟨before, s, after, rfl, hs, hbefore, t, ht, htn, hd⟩
    have hmem : s ∈ before ++ s :: after := by simp
    obtain ⟨slot, hslot, rfl⟩ := exists_slot_of_compile hp hl hmem hs
    have hfind : (before ++ s :: after).find? (·.declares slot.name) = some s :=
      List.find?_eq_some_iff_append.mpr ⟨hs, before, after, rfl, by simpa using hbefore⟩
    have hfirst := declaring_of_compile hp hl hslot
    rw [hfind, Option.map_some, Option.some.injEq] at hfirst
    exact h slot hslot t (by simp [ht]) htn (hfirst ▸ hd)
  · intro h slot hslot t ht htn hd
    obtain ⟨s, hs, hid⟩ := Option.map_eq_some_iff.mp (declaring_of_compile hp hl hslot)
    obtain ⟨hsn, before, after, rfl, hbefore⟩ := List.find?_eq_some_iff_append.mp hs
    rw [← hid] at hd
    -- `t` cannot stand before the first schema with the name, and none derives from itself
    rcases List.mem_append.mp ht with ht | ht
    · simpa [htn] using hbefore t ht
    · rcases List.mem_cons.mp ht with rfl | ht
      · exact hl.not_derives_self (List.mem_map_of_mem (by simp)) hd
      · exact h slot.name ⟨before, s, after, rfl, hsn, by simpa using hbefore, t, ht, htn, hd⟩

/-- Where no schema stands behind a base of its own, no override can be undone. -/
theorem not_overrideUndone_of_pairwise
    (h : lineage.Pairwise fun s t => ¬Derives store t.id s.id) (n : String) :
    ¬OverrideUndone store lineage n := by
  rintro ⟨before, s, after, rfl, -, -, t, ht, -, hd⟩
  have hafter := (List.pairwise_append.mp h).2.1
  exact (List.pairwise_cons.mp hafter).1 t ht hd

/-- Single inheritance is such a case. -/
theorem pairwise_not_derives_of_single (hl : IsLineage store id lineage)
    (hsingle : ∀ s ∈ lineage, s.bases.length ≤ 1) :
    lineage.Pairwise fun s t => ¬Derives store t.id s.id := by
  refine (hl.chain hsingle).imp_of_mem ?_
  intro s t hs _ hst hts
  exact hl.not_derives_self (List.mem_map_of_mem hs) (hst.trans hts)

/-- A slot is taken from the first schema of the lineage that declares it. That is the most derived
one as long as no override is undone, so whenever no schema stands behind a base of its own. -/
theorem mostDerived_iff (hp : (compile c store id).outcome = .ok p) :
    ∃ lineage, IsLineage store id lineage ∧ ids lineage = id :: p.bases ∧
      (∀ slot ∈ p.slots,
        (lineage.find? (·.declares slot.name)).map (·.id) = some slot.base.declaring) ∧
      ((∀ slot ∈ p.slots, MostDerived store lineage slot) ↔
        ∀ n, ¬OverrideUndone store lineage n) ∧
      (lineage.Pairwise (fun s t => ¬Derives store t.id s.id) →
        ∀ slot ∈ p.slots, MostDerived store lineage slot) ∧
      ((∀ s ∈ lineage, s.bases.length ≤ 1) →
        ∀ slot ∈ p.slots, MostDerived store lineage slot) := by
  obtain ⟨lineage, hl, hids⟩ := bases_of_compile hp
  have hiff := forall_mostDerived_iff hp hl
  refine ⟨lineage, hl, hids, fun slot => declaring_of_compile hp hl, hiff, ?_, ?_⟩
  · intro h
    exact hiff.mpr (not_overrideUndone_of_pairwise h)
  · intro h
    exact hiff.mpr (not_overrideUndone_of_pairwise (pairwise_not_derives_of_single hl h))

/-- Two schemas have a base in common, and the second overrides its slot. -/
def shape : Schema := { id := ⟨"shape"⟩, slots := [{ name := "label", valueType := .text }] }

def solid : Schema := { id := ⟨"solid"⟩, bases := [⟨"shape"⟩] }

def named : Schema :=
  { id := ⟨"named"⟩, bases := [⟨"shape"⟩], slots := [{ name := "label", valueType := .text }] }

def cube : Schema := { id := ⟨"cube"⟩, bases := [⟨"solid"⟩, ⟨"named"⟩] }

def shapes : Store where
  schemas := [shape, solid, named, cube]
  distinct := by decide

theorem mostDerived_iff_named : ∃ p, (compile ⟨.standard, {}⟩ shapes named.id).outcome = .ok p ∧
    p.slots.map (·.base.declaring) = [named.id] ∧
    IsLineage shapes named.id [named, shape] ∧
    (∀ n, ¬OverrideUndone shapes [named, shape] n) ∧
    ∀ slot ∈ p.slots, MostDerived shapes [named, shape] slot := by
  obtain ⟨p, hp, hslots⟩ : ∃ p, (compile ⟨.standard, {}⟩ shapes named.id).outcome = .ok p ∧
    p.slots.map (·.base.declaring) = [named.id] := by with_unfolding_all exact ⟨_, rfl, rfl⟩
  have hl : IsLineage shapes named.id [named, shape] :=
    (isLineage_cons_iff (by decide)).mpr (by decide +kernel)
  obtain ⟨lineage, hl', -, -, hiff, -, hsingle⟩ := mostDerived_iff hp
  obtain rfl := hl'.unique hl
  have hmost := hsingle (by decide)
  exact ⟨p, hp, hslots, hl, hiff.mp hmost, hmost⟩

/-- A cube has the label of a shape, although being named it overrides that. -/
theorem cube_override_undone : ∃ p, (compile ⟨.standard, {}⟩ shapes cube.id).outcome = .ok p ∧
    IsLineage shapes cube.id [cube, solid, shape, named] ∧
    ¬∀ slot ∈ p.slots, MostDerived shapes [cube, solid, shape, named] slot := by
  obtain ⟨p, hp, hslots⟩ : ∃ p, (compile ⟨.standard, {}⟩ shapes cube.id).outcome = .ok p ∧
    p.slots.map (fun s => (s.name, s.base.declaring)) = [("label", shape.id)] := by
    with_unfolding_all exact ⟨_, rfl, rfl⟩
  refine ⟨p, hp, (isLineage_cons_iff (by decide)).mpr (by decide +kernel), ?_⟩
  intro h
  obtain ⟨slot, hslot, heq⟩ := List.map_eq_singleton_iff.mp hslots
  obtain ⟨hname, hdeclaring⟩ := Prod.mk.inj heq
  have hlabel : named.declares slot.name := by rw [hname]; decide
  apply h slot (by simp [hslot]) named (by simp) hlabel
  rw [hdeclaring]
  exact .single ⟨named, by decide, by decide⟩

end Prototype

end HyperSchema
