import HyperSchema.Proofs.Prototype.Checks
import HyperSchema.Proofs.Prototype.Refusals

namespace HyperSchema.Prototype
open Lineage

/-- The first declaration of its name in the lineage. -/
def Wins (lineage : List Schema) (x : Declared) : Prop :=
  (declared lineage).find? (·.name = x.name) = some x

/-- What the declarations of a lineage must have for its first schema to compile. -/
structure Admissible (c : Conventions) (owner : SchemaId) (lineage : List Schema) : Prop where
  distinct : ∀ s ∈ lineage, (s.declarations.map Declaration.name).Nodup
  unreserved : ∀ s ∈ lineage, ∀ d ∈ s.declarations,
    d.name ∉ builtInNames ∧ d.name ∉ c.settings.reservedSlotNames
  kinds : ∀ x ∈ declared lineage, ∀ y ∈ declared lineage, x.name = y.name → x.kind = y.kind
  compiles : ∀ x, Wins lineage x → ∃ slot, x.compile c owner = .ok slot
  relations : ∀ x, Wins lineage x → ∀ y, Wins lineage y →
    ∀ r, x.2.relation? = some r → y.2.relation? = some r → x = y
  aliasUnreserved : ∀ x, Wins lineage x → ∀ a ∈ x.2.aliases,
    a ∉ builtInNames ∧ a ∉ c.settings.reservedSlotNames
  aliasUnnamed : ∀ x, Wins lineage x → ∀ a ∈ x.2.aliases, a ∉ (declared lineage).map Declared.name
  aliasUnshared : ∀ x, Wins lineage x → ∀ y, Wins lineage y →
    ∀ a ∈ x.2.aliases, a ∈ y.2.aliases → x = y
  linkBindings : ∀ x, Wins lineage x → ∀ link, x.2.linkBinding? = some link →
    x.2.valueType.isModel ∧ ∃ y, Wins lineage y ∧ y.name = link ∧ y.kind = .link
  keys : ∀ s ∈ lineage, ∀ k ∈ s.keySlotNames, ∃ x, Wins lineage x ∧ (k = x.name ∨ k ∈ x.2.aliases)

/-- All that the schema derives from is kept, nothing of it derives from itself, and the
declarations of the lineage fit together. -/
structure WellFormed (c : Conventions) (store : Store) (id : SchemaId) : Prop where
  kept : ∀ b, b = id ∨ Derives store id b → ∃ s, store.find? b = some s
  acyclic : ∀ b, b = id ∨ Derives store id b → ¬Derives store b b
  admissible : ∃ lineage, IsLineage store id lineage ∧ Admissible c id lineage

variable {c : Conventions}

theorem wins_iff {lineage : List Schema} {x : Declared} :
    Wins lineage x ↔ x ∈ winners (declared lineage) := mem_winners_iff.symm

theorem exists_assemble_iff {s : Schema} {bases : List Schema} :
    (∃ p, assemble c s bases = .ok p) ↔ Admissible c s.id (s :: bases) := by
  simp only [assemble_eq_ok_iff, foldlM_merge_eq_ok_iff, withNames_eq_ok_iff]
  refine ⟨?_, ?_⟩
  · intro ⟨p, table, aliases, ⟨hnames, hkinds, hm⟩, haliases, hlinks, hkeys, _⟩
    obtain ⟨hc, hr⟩ := exists_merged_iff.mp ⟨table, hm⟩
    obtain ⟨hwell, rfl⟩ := hm.indexAliases_eq_ok_iff.mp haliases
    rw [hm.checkLinkBindings_eq_ok_iff] at hlinks
    simp only [hm.isKnown_iff] at hkeys
    simp only [← wins_iff] at hc hr hlinks hkeys
    exact {
      distinct := fun t ht => (hnames t ht).1
      unreserved := fun t ht => (hnames t ht).2
      kinds := hkinds
      compiles := hc
      relations := hr
      aliasUnreserved := fun x hx => hwell.unreserved x (wins_iff.mp hx)
      aliasUnnamed := fun x hx => hwell.unnamed x (wins_iff.mp hx)
      aliasUnshared := fun x hx y hy => hwell.unshared x (wins_iff.mp hx) y (wins_iff.mp hy)
      linkBindings := hlinks
      keys := hkeys }
  · intro h
    -- the table exists by the conditions that merging has; the others are checked against it
    obtain ⟨table, hm⟩ := exists_merged_iff.mpr
      ⟨fun x hx => h.compiles x (wins_iff.mpr hx),
        fun x hx y hy => h.relations x (wins_iff.mpr hx) y (wins_iff.mpr hy)⟩
    have hwell : AliasesWell c.settings (declared (s :: bases)) :=
      { unreserved := fun x hx => h.aliasUnreserved x (wins_iff.mpr hx)
        unnamed := fun x hx => h.aliasUnnamed x (wins_iff.mpr hx)
        unshared := fun x hx y hy => h.aliasUnshared x (wins_iff.mpr hx) y (wins_iff.mpr hy) }
    have hlinks := h.linkBindings
    have hkeys := h.keys
    simp only [wins_iff] at hlinks hkeys
    have hnames : ∀ t ∈ s :: bases, NamesWell c.settings t :=
      fun t ht => ⟨h.distinct t ht, h.unreserved t ht⟩
    refine ⟨_, table, _, ⟨hnames, h.kinds, hm⟩, hm.indexAliases_eq_ok_iff.mpr ⟨hwell, rfl⟩,
      hm.checkLinkBindings_eq_ok_iff.mpr hlinks, ?_, rfl⟩
    simpa only [hm.isKnown_iff] using hkeys

theorem exists_compile_iff {store : Store} {id : SchemaId} :
    (∃ p, (compile c store id).outcome = .ok p) ↔ WellFormed c store id := by
  simp only [compile_eq_ok_iff]
  refine ⟨?_, ?_⟩
  · rintro ⟨p, s, bases, rfl, hl, hp⟩
    have hreach := exists_isLineage_iff.mp ⟨_, hl⟩
    exact ⟨fun b hb => (hreach b hb).1, fun b hb => (hreach b hb).2, _, hl,
      exists_assemble_iff.mp ⟨p, hp⟩⟩
  · intro ⟨_, _, lineage, hl, ha⟩
    obtain ⟨s, bases, rfl, rfl, -⟩ := hl.exists_cons
    obtain ⟨p, hp⟩ := exists_assemble_iff.mpr ha
    exact ⟨p, s, bases, rfl, hl, hp⟩

theorem compile_refuses (store : Store) (id : SchemaId) :
    Refuses (fun e => (∃ x, e = .compile x) ∨ ∃ x, e = .coercion x)
      (compile c store id).outcome := by
  cases hs : store.find? id with
  | none =>
    rw [compile_of_not_kept hs]
    exact .error (.inl ⟨_, rfl⟩)
  | some s =>
    obtain ⟨-, rfl⟩ := Store.mem_of_find? hs
    cases hb : Lineage.bases store s with
    | error e =>
      rw [compile_of_bases_error hs hb]
      exact .error (.inl ⟨_, rfl⟩)
    | ok bases =>
      rw [compile_of_bases_ok hs hb]
      intro e he
      obtain ⟨x, rfl, -⟩ | hcoercion := assemble_refuses s bases e he
      · exact .inl ⟨x, rfl⟩
      · exact .inr hcoercion

/-- Exactly the well-formed schemas compile. The others fail for what is wrong in a schema. -/
theorem compiles_iff_wellFormed (c : Conventions) (store : Store) (id : SchemaId) :
    ((∃ p, (compile c store id).outcome = .ok p) ↔ WellFormed c store id) ∧
      (¬WellFormed c store id → ∃ e, (compile c store id).outcome = .error e ∧
        ((∃ x, e = .compile x) ∨ ∃ x, e = .coercion x)) := by
  refine ⟨exists_compile_iff, ?_⟩
  intro hbad
  cases ho : (compile c store id).outcome with
  | ok p => exact absurd (exists_compile_iff.mp ⟨p, ho⟩) hbad
  | error e => exact ⟨e, rfl, compile_refuses store id e ho⟩

/-- An order has a code of its own, which is its key. A return makes the code a link. -/
def order : Schema where
  id := ⟨"order"⟩
  bases := [⟨"document"⟩]
  slots := [{ name := "code", valueType := .integer }]
  keySlotNames := ["code"]

def orderReturn : Schema where
  id := ⟨"return"⟩
  bases := [⟨"order"⟩]
  links := [{ name := "code", relation := "origin", method := .get }]

def orders : Store where
  schemas := [{ id := ⟨"document"⟩, slots := [{ name := "code", valueType := .text }] },
    order, orderReturn]
  distinct := by decide

theorem compiles_iff_wellFormed_orders :
    WellFormed ⟨.standard, {}⟩ orders order.id ∧ ¬WellFormed ⟨.standard, {}⟩ orders orderReturn.id ∧
      ∃ e, (compile ⟨.standard, {}⟩ orders orderReturn.id).outcome = .error e ∧
        ((∃ x, e = .compile x) ∨ ∃ x, e = .coercion x) := by
  obtain ⟨horder, -⟩ := compiles_iff_wellFormed ⟨.standard, {}⟩ orders order.id
  obtain ⟨hreturn, hrefused⟩ := compiles_iff_wellFormed ⟨.standard, {}⟩ orders orderReturn.id
  have herror : (compile ⟨.standard, {}⟩ orders orderReturn.id).outcome =
      .error (.compile (.slotKindConflict ⟨"return"⟩ "code" .link .property)) := by
    with_unfolding_all rfl
  have hbad : ¬WellFormed ⟨.standard, {}⟩ orders orderReturn.id := by
    intro h
    obtain ⟨p, hp⟩ := hreturn.mpr h
    rw [herror] at hp
    cases hp
  exact ⟨horder.mp ⟨_, by with_unfolding_all rfl⟩, hbad, hrefused hbad⟩

end HyperSchema.Prototype
