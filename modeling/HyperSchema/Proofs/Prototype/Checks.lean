import HyperSchema.Proofs.Prototype.Merge
import HyperSchema.Proofs.Prototype.Stages

namespace HyperSchema.Prototype

variable {c : Conventions} {owner : SchemaId} {slots : List Slot} {table : SlotTable}
  {xs : List Declared}

theorem aliasFault?_eq_none_iff {settings : Settings} {taken : List (String × String)}
    {name byname : String} :
    aliasFault? settings slots taken name byname = none ↔
      byname ≠ name ∧ isReserved settings byname = false ∧ byname ∉ slots.map Slot.name ∧
        byname ∉ taken.map (·.1) := by
  unfold aliasFault?
  by_cases hself : byname = name
  · simp [hself]
  by_cases hres : isReserved settings byname
  · simp [hself, hres]
  by_cases hslot : (slotNamed? slots byname).isSome
  · simp [hself, hres, hslot, isSome_slotNamed?_iff.mp hslot]
  rw [if_neg hself, if_neg hres, if_neg hslot, Option.map_eq_none_iff, List.lookup_eq_none_iff,
    ← isSome_slotNamed?_iff]
  rw [Bool.not_eq_true] at hres
  simp only [hself, hres, hslot, ne_eq, not_false_eq_true, true_and, List.mem_map, not_exists,
    not_and, bne_iff_ne, @eq_comm _ byname, Bool.false_eq_true]

/-- Aliases are taken one after the other, each once. -/
theorem indexAliases_eq_ok_iff {settings : Settings} {taken ds result : List (String × String)} :
    indexAliases settings owner slots taken ds = .ok result ↔
      (∀ d ∈ ds, d.2 ≠ d.1 ∧ isReserved settings d.2 = false ∧ d.2 ∉ slots.map Slot.name) ∧
        (∀ d ∈ ds, d.2 ∉ taken.map (·.1)) ∧ (ds.map (·.2)).Nodup ∧
          result = taken ++ ds.map Prod.swap := by
  induction ds generalizing taken with
  | nil =>
    simp only [indexAliases, Except.ok.injEq, List.map_nil, List.append_nil]
    exact ⟨fun h => ⟨by simp, by simp, List.nodup_nil, h.symm⟩, fun h => h.2.2.2.symm⟩
  | cons d ds ih =>
    obtain ⟨name, byname⟩ := d
    rw [indexAliases]
    cases hf : aliasFault? settings slots taken name byname with
    | some reason =>
      simp only [reduceCtorEq, false_iff]
      intro ⟨hall, htaken, _, _⟩
      obtain ⟨hself, hres, hslot⟩ := hall (name, byname) List.mem_cons_self
      have hnone := aliasFault?_eq_none_iff.mpr
        ⟨hself, hres, hslot, htaken (name, byname) List.mem_cons_self⟩
      rw [hf] at hnone
      cases hnone
    | none =>
      obtain ⟨hself, hres, hslot, htaken⟩ := aliasFault?_eq_none_iff.mp hf
      have hfresh : (∀ d ∈ ds, d.2 ∉ (taken ++ [(byname, name)]).map (·.1)) ↔
          (∀ d ∈ ds, d.2 ∉ taken.map (·.1)) ∧ byname ∉ ds.map (·.2) := by
        simp only [List.map_append, List.map_singleton, List.mem_append, List.mem_singleton,
          not_or, forall_and, List.mem_map (b := byname), not_exists, not_and]
      -- the alias just taken is what later ones must differ from
      rw [ih, hfresh]
      simp only [List.forall_mem_cons, List.map_cons, List.nodup_cons,
        Prod.swap_prod_mk, List.append_assoc, List.singleton_append]
      tauto

/-- Whether the aliases of the declarations that count are fit for an index. -/
structure AliasesWell (settings : Settings) (xs : List Declared) : Prop where
  unreserved : ∀ x ∈ winners xs, ∀ a ∈ x.2.aliases,
    a ∉ builtInNames ∧ a ∉ settings.reservedSlotNames
  unnamed : ∀ x ∈ winners xs, ∀ a ∈ x.2.aliases, a ∉ xs.map Declared.name
  unshared : ∀ x ∈ winners xs, ∀ y ∈ winners xs, ∀ a ∈ x.2.aliases, a ∈ y.2.aliases → x = y

namespace Merged

theorem declaredAliases_eq (h : Merged c owner table xs) :
    declaredAliases table.slots =
      (winners xs).flatMap fun x => (Text.nameSet x.2.aliases).map (x.name, ·) := by
  have hslot : ∀ x s, Declared.compile c owner x = .ok s →
      s.base.aliases.map (s.name, ·) = (Text.nameSet x.2.aliases).map (x.name, ·) := by
    intro x s hs
    rw [Declaration.name_of_compile hs, Declaration.aliases_of_compile hs, Declared.name]
  rw [declaredAliases, List.flatMap_def, map_of_compiled hslot h.compiled, List.flatMap_def]

theorem mem_declaredAliases_iff (h : Merged c owner table xs) {d : String × String} :
    d ∈ declaredAliases table.slots ↔ ∃ x ∈ winners xs, x.name = d.1 ∧ d.2 ∈ x.2.aliases := by
  simp only [h.declaredAliases_eq, List.mem_flatMap, List.mem_map, Text.mem_nameSet, Prod.ext_iff]
  refine ⟨?_, ?_⟩
  · rintro ⟨x, hx, a, ha, hname, rfl⟩
    exact ⟨x, hx, hname, ha⟩
  · intro ⟨x, hx, hname, ha⟩
    exact ⟨x, hx, d.2, ha, hname, rfl⟩

theorem nodup_declaredAliases_iff (h : Merged c owner table xs) :
    ((declaredAliases table.slots).map (·.2)).Nodup ↔
      ∀ x ∈ winners xs, ∀ y ∈ winners xs, ∀ a ∈ x.2.aliases, a ∈ y.2.aliases → x = y := by
  have hbynames : (declaredAliases table.slots).map (·.2) =
      (winners xs).flatMap fun x => Text.nameSet x.2.aliases := by
    simp only [h.declaredAliases_eq, List.map_flatMap, List.map_map, Function.comp_def,
      List.map_id']
  rw [hbynames, nodup_flatMap_iff (nodup_winners xs).of_map fun x _ => Text.nodup_nameSet _]
  simp only [Text.mem_nameSet]

/-- The index takes the aliases of all slots, and no others. -/
theorem indexAliases_eq_ok_iff {settings : Settings} (h : Merged c owner table xs)
    {result : List (String × String)} :
    indexAliases settings owner table.slots [] (declaredAliases table.slots) = .ok result ↔
      AliasesWell settings xs ∧ result = (declaredAliases table.slots).map Prod.swap := by
  rw [Prototype.indexAliases_eq_ok_iff, h.nodup_declaredAliases_iff]
  simp only [isReserved_eq_false_iff, List.map_nil, List.not_mem_nil, not_false_eq_true,
    implies_true, true_and, List.nil_append]
  refine ⟨?_, ?_⟩
  · intro ⟨hall, hnodup, hresult⟩
    have hfit {x : Declared} {a : String} (hx : x ∈ winners xs) (ha : a ∈ x.2.aliases) :=
      hall (x.name, a) (h.mem_declaredAliases_iff.mpr ⟨x, hx, rfl, ha⟩)
    exact ⟨⟨fun x hx a ha => (hfit hx ha).2.1,
      fun x hx a ha => mt h.mem_names_iff.mpr (hfit hx ha).2.2, hnodup⟩, hresult⟩
  · intro ⟨⟨hreserved, hnames, hnodup⟩, hresult⟩
    refine ⟨?_, hnodup, hresult⟩
    intro d hd
    obtain ⟨x, hx, hxd, ha⟩ := h.mem_declaredAliases_iff.mp hd
    refine ⟨?_, hreserved x hx _ ha, mt h.mem_names_iff.mp (hnames x hx _ ha)⟩
    intro hself
    apply hnames x hx _ ha
    rw [hself, ← hxd]
    exact List.mem_map_of_mem (mem_of_mem_winners hx)

/-- A name is known once it is the name of a slot or an alias of one. -/
theorem isKnown_iff (h : Merged c owner table xs) {s : Schema} {bases : List Schema} {k : String} :
    (skeleton s bases table ((declaredAliases table.slots).map Prod.swap)).isKnown k ↔
      ∃ x ∈ winners xs, k = x.name ∨ k ∈ x.2.aliases := by
  have hname : (slotNamed? table.slots k).isSome ↔ ∃ x ∈ winners xs, k = x.name := by
    rw [isSome_slotNamed?_iff, h.names, List.mem_map]
    simp only [eq_comm]
  have halias : (((declaredAliases table.slots).map Prod.swap).lookup k).isSome ↔
      ∃ x ∈ winners xs, k ∈ x.2.aliases := by
    rw [List.lookup_isSome_iff]
    refine ⟨?_, ?_⟩
    · intro ⟨p, hp, hk⟩
      obtain ⟨d, hd, rfl⟩ := List.mem_map.mp hp
      obtain ⟨x, hx, -, ha⟩ := h.mem_declaredAliases_iff.mp hd
      exact ⟨x, hx, eq_of_beq hk ▸ ha⟩
    · intro ⟨x, hx, ha⟩
      have hd : (x.name, k) ∈ declaredAliases table.slots :=
        h.mem_declaredAliases_iff.mpr ⟨x, hx, rfl, ha⟩
      exact ⟨(k, x.name), List.mem_map_of_mem hd, BEq.rfl⟩
  simp only [and_or_left, exists_or, ← hname, ← halias]
  by_cases hk : (slotNamed? table.slots k).isSome
  · simp [isKnown, realName?, skeleton, hk]
  · simp [isKnown, realName?, skeleton, hk]

end Merged

theorem checkLinkBinding_eq_ok_iff {p : PropertySlot} :
    checkLinkBinding owner slots p = .ok () ↔ ∀ link, p.linkBinding = some link →
      p.base.valueType.isModel ∧ ∃ s, slotNamed? slots link = some s ∧ s.kind = .link := by
  have hlink (s : Slot) : s.asLink? = none ↔ s.kind ≠ .link := by
    cases s <;> simp [Slot.asLink?, Slot.kind]
  unfold checkLinkBinding
  cases p.linkBinding with
  | none => simp
  | some link =>
    simp only [Option.some.injEq, forall_eq']
    cases hs : slotNamed? slots link with
    | none => simp
    | some s =>
      by_cases hk : s.kind = .link
      · have hsome : s.asLink? ≠ none := mt (hlink s).mp (not_not.mpr hk)
        by_cases hm : p.base.valueType.isModel <;> simp [hsome, hm, hk]
      · simp [(hlink s).mpr hk, hk]

/-- Bindings name links that count, and only values that are models have one. -/
theorem Merged.checkLinkBindings_eq_ok_iff (h : Merged c owner table xs) :
    (table.slots.filterMap Slot.asProperty?).forM (checkLinkBinding owner table.slots) = .ok () ↔
      ∀ x ∈ winners xs, ∀ link, x.2.linkBinding? = some link →
        x.2.valueType.isModel ∧ ∃ y ∈ winners xs, y.name = link ∧ y.kind = .link := by
  have htarget (link : String) : (∃ s, slotNamed? table.slots link = some s ∧ s.kind = .link) ↔
      ∃ y ∈ winners xs, y.name = link ∧ y.kind = .link := by
    simp only [h.slotNamed?_eq_some_iff]
    refine ⟨?_, ?_⟩
    · intro ⟨s, ⟨y, hy, hname, hc⟩, hk⟩
      exact ⟨y, hy, hname, (Declaration.compile_of_ok hc).2.1.symm.trans hk⟩
    · intro ⟨y, hy, hname, hk⟩
      obtain ⟨s, -, hc⟩ := h.exists_slot hy
      exact ⟨s, ⟨y, hy, hname, hc⟩, (Declaration.compile_of_ok hc).2.1.trans hk⟩
  simp only [forM_eq_ok_iff, checkLinkBinding_eq_ok_iff, htarget]
  refine ⟨?_, ?_⟩
  · intro hall x hx link hlink
    obtain ⟨s, hs, hc⟩ := h.exists_slot hx
    obtain ⟨-, -, -, hl⟩ := Declaration.compile_of_ok hc
    rw [hlink, Slot.linkBinding?, Option.bind_eq_some_iff] at hl
    obtain ⟨p, hp, hpl⟩ := hl
    rw [← Declaration.valueType_of_compile hc, ← Slot.base_of_asProperty? hp]
    exact hall p (List.mem_filterMap.mpr ⟨s, hs, hp⟩) link hpl
  · intro hall p hp link hlink
    obtain ⟨s, hs, hp⟩ := List.mem_filterMap.mp hp
    obtain ⟨x, hx, hc⟩ := h.mem_iff.mp hs
    obtain ⟨-, -, -, hl⟩ := Declaration.compile_of_ok hc
    rw [Slot.base_of_asProperty? hp, Declaration.valueType_of_compile hc]
    refine hall x hx link ?_
    rw [← hl, Slot.linkBinding?, hp, Option.bind_some, hlink]

theorem foldlM_merge_of_compile {store : Store} {id : SchemaId} {p : Prototype}
    {lineage : List Schema} (h : (compile c store id).outcome = .ok p)
    (hl : Lineage.IsLineage store id lineage) :
    lineage.foldlM (merge c id) {} = .ok p.toSlotTable := by
  obtain ⟨s, bases, rfl, hl', h⟩ := compile_eq_ok_iff.mp h
  obtain ⟨table, aliases, htable, -, -, h⟩ := assemble_eq_ok_iff.mp h
  obtain ⟨-, rfl⟩ := withNames_eq_ok_iff.mp h
  rwa [hl.unique hl']

/-- The slots of a prototype are those of the declarations that count. -/
theorem merged_of_compile {store : Store} {id : SchemaId} {p : Prototype} {lineage : List Schema}
    (h : (compile c store id).outcome = .ok p) (hl : Lineage.IsLineage store id lineage) :
    Merged c id p.toSlotTable (declared lineage) :=
  (foldlM_merge_eq_ok_iff.mp (foldlM_merge_of_compile h hl)).2.2

/-- A prototype owns all its slots, also the inherited ones. -/
theorem owner_of_compile {store : Store} {id : SchemaId} {p : Prototype} {s : Slot}
    (h : (compile c store id).outcome = .ok p) (hs : s ∈ p.slots) : s.base.owner = id := by
  obtain ⟨t, bases, -, hl, -⟩ := compile_eq_ok_iff.mp h
  obtain ⟨x, -, hx⟩ := (merged_of_compile h hl).mem_iff.mp hs
  rw [(Declaration.compile_of_ok hx).1, Declaration.base_owner]

/-- A slot found under whatever name is the one under its own name. -/
theorem slotNamed?_of_slot? {p : Prototype} {name : String} {s : Slot}
    (h : p.slot? name = some s) : slotNamed? p.slots s.name = some s := by
  obtain ⟨real, -, hs⟩ := Option.bind_eq_some_iff.mp h
  have hname : s.name = real := by simpa using List.find?_some hs
  rwa [hname]

theorem slot?_of_slotNamed? {p : Prototype} {name : String} {s : Slot}
    (h : slotNamed? p.slots name = some s) : p.slot? name = some s := by
  rw [slot?, realName?, h]
  exact h

/-- A slot found under whatever name has the real name that the name stands for. -/
theorem realName?_of_slot? {p : Prototype} {name : String} {s : Slot}
    (h : p.slot? name = some s) : p.realName? name = some s.name := by
  obtain ⟨real, hreal, hs⟩ := Option.bind_eq_some_iff.mp h
  have hname : s.name = real := by simpa using List.find?_some hs
  rw [hreal, hname]

end HyperSchema.Prototype
