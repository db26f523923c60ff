import HyperSchema.Proofs.Lineage.Bases
import HyperSchema.Proofs.Prototype.Names

namespace HyperSchema.Prototype

/-- A prototype of which the keys and comparables are not known yet. -/
def skeleton (s : Schema) (bases : List Schema) (table : SlotTable)
    (aliases : List (String × String)) : Prototype where
  toSlotTable := table
  schema := s.id
  version := s.version
  title := s.title
  description := s.description
  readOnly := s.readOnly
  tags := s.tags
  bases := bases.map (·.id)
  aliases := aliases
  keySlotNames := []
  comparableSlotNames := []

/-- The prototype of a schema with the given bases. -/
def assemble (c : Conventions) (s : Schema) (bases : List Schema) : Except Failure Prototype := do
  let table ← (s :: bases).foldlM (merge c s.id) {}
  let slots := table.slots
  let aliases ← liftFailure .compile (indexAliases c.settings s.id slots [] (declaredAliases slots))
  liftFailure .compile ((slots.filterMap Slot.asProperty?).forM (checkLinkBinding s.id slots))
  liftFailure .compile ((skeleton s bases table aliases).withNames (s :: bases))

variable {c : Conventions} {store : Store} {id : SchemaId} {p : Prototype}

theorem compile_of_not_kept (h : store.find? id = none) :
    (compile c store id).outcome = .error (.compile (.schemaNotFound id)) := by
  simp [compile, draft, h, throw, throwThe, MonadExceptOf.throw]

theorem compile_of_bases_error {s : Schema} {e : CompileError} (hs : store.find? id = some s)
    (he : Lineage.bases store s = .error e) :
    (compile c store id).outcome = .error (.compile e) := by
  have hlift : liftFailure Failure.compile (Lineage.bases store s) = .error (.compile e) := by
    rw [he]
    rfl
  simp [compile, draft, hs, hlift, bind, Except.bind]

theorem compile_of_bases_ok {s : Schema} {bases : List Schema} (hs : store.find? id = some s)
    (hb : Lineage.bases store s = .ok bases) :
    (compile c store id).outcome = assemble c s bases := by
  have hlift : liftFailure Failure.compile (Lineage.bases store s) = .ok bases := by rw [hb]; rfl
  unfold compile draft assemble
  simp only [hs, hlift, bind, Except.bind]
  cases (s :: bases).foldlM (merge c s.id) {} with
  | error e => rfl
  | ok table =>
    dsimp only
    cases liftFailure Failure.compile
        (indexAliases c.settings s.id table.slots [] (declaredAliases table.slots)) with
    | error e => rfl
    | ok aliases =>
      dsimp only
      cases liftFailure Failure.compile
          ((table.slots.filterMap Slot.asProperty?).forM (checkLinkBinding s.id table.slots)) with
      | error e => rfl
      | ok => rfl

theorem compile_eq_ok_iff :
    (compile c store id).outcome = .ok p ↔
      ∃ s bases, s.id = id ∧ Lineage.IsLineage store id (s :: bases) ∧
        assemble c s bases = .ok p := by
  refine ⟨?_, ?_⟩
  · intro h
    cases hs : store.find? id with
    | none => simp [compile_of_not_kept hs] at h
    | some s =>
      obtain ⟨-, rfl⟩ := Store.mem_of_find? hs
      cases hb : Lineage.bases store s with
      | error e => simp [compile_of_bases_error hs hb] at h
      | ok bases =>
        rw [compile_of_bases_ok hs hb] at h
        exact ⟨s, bases, rfl, (Lineage.isLineage_cons_iff hs).mpr hb, h⟩
  · rintro ⟨s, bases, rfl, hl, h⟩
    have hs := hl.kept s List.mem_cons_self
    rw [compile_of_bases_ok hs ((Lineage.isLineage_cons_iff hs).mp hl), h]

/-- A prototype stays the same when more schemas are kept. -/
theorem compile_mono {store' : Store}
    (hle : ∀ id s, store.find? id = some s → store'.find? id = some s)
    (h : (compile c store id).outcome = .ok p) : (compile c store' id).outcome = .ok p := by
  obtain ⟨s, bases, hid, hl, h⟩ := compile_eq_ok_iff.mp h
  exact compile_eq_ok_iff.mpr ⟨s, bases, hid, hl.mono hle, h⟩

theorem assemble_eq_ok_iff {s : Schema} {bases : List Schema} :
    assemble c s bases = .ok p ↔ ∃ table aliases,
      (s :: bases).foldlM (merge c s.id) {} = .ok table ∧
      indexAliases c.settings s.id table.slots [] (declaredAliases table.slots) = .ok aliases ∧
      (table.slots.filterMap Slot.asProperty?).forM (checkLinkBinding s.id table.slots) = .ok () ∧
      (skeleton s bases table aliases).withNames (s :: bases) = .ok p := by
  simp only [assemble, bind_eq_ok_iff, liftFailure_eq_ok_iff]
  refine ⟨?_, ?_⟩
  · intro ⟨table, htable, aliases, haliases, _, hlinks, hnames⟩
    exact ⟨table, aliases, htable, haliases, hlinks, hnames⟩
  · intro ⟨table, aliases, htable, haliases, hlinks, hnames⟩
    exact ⟨table, htable, aliases, haliases, (), hlinks, hnames⟩

theorem withNames_eq_ok_iff {s : Schema} {bases lineage : List Schema} {table : SlotTable}
    {aliases : List (String × String)} :
    (skeleton s bases table aliases).withNames lineage = .ok p ↔
      (∀ t ∈ lineage, ∀ k ∈ t.keySlotNames, (skeleton s bases table aliases).isKnown k) ∧
      p = (skeleton s bases table aliases).collected (lineage.flatMap (·.keySlotNames))
        (lineage.flatMap (·.comparableSlotNames)) := by
  have hnone : (skeleton s bases table aliases).collected [] [] = skeleton s bases table aliases :=
    rfl
  rw [← withNames_collected_eq_ok_iff, hnone]

end HyperSchema.Prototype
