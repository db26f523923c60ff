import HyperSchema.Proofs.Prototype.Table
import Mathlib.Data.Set.List

namespace HyperSchema.Prototype

theorem isSome_slotNamed?_iff {table : List Slot} {n : String} :
    (slotNamed? table n).isSome ↔ n ∈ table.map Slot.name := by
  simp [slotNamed?, List.find?_isSome]

/-- The table holds what the declarations that count compile to, no relation twice, and what else it
has is read off its slots. -/
structure Merged (c : Conventions) (owner : SchemaId) (table : SlotTable) (xs : List Declared) :
    Prop where
  compiled : (winners xs).map (Declared.compile c owner) = table.slots.map .ok
  relations : (table.slots.filterMap Slot.relation?).Nodup
  indexed : table = .ofSlots table.slots

variable {c : Conventions} {owner : SchemaId} {table : SlotTable} {xs : List Declared}

/-- What slots have from their declarations is the same over both lists. -/
theorem map_of_compiled {α : Type} {f : Slot → α} {g : Declared → α}
    (hfg : ∀ x s, x.compile c owner = .ok s → f s = g x) {ws : List Declared} {slots : List Slot}
    (h : ws.map (Declared.compile c owner) = slots.map .ok) : slots.map f = ws.map g := by
  induction ws generalizing slots with
  | nil => simp_all
  | cons w ws ih =>
    cases slots with
    | nil => simp at h
    | cons s slots =>
      rw [List.map_cons, List.map_cons, List.cons.injEq] at h
      rw [List.map_cons, List.map_cons, ih h.2, hfg w s h.1]

namespace Merged

theorem empty : Merged c owner {} [] := ⟨rfl, List.nodup_nil, rfl⟩

theorem names (h : Merged c owner table xs) :
    table.slots.map Slot.name = (winners xs).map Declared.name :=
  map_of_compiled (fun _ _ => Declaration.name_of_compile) h.compiled

theorem slotNames (h : Merged c owner table xs) : table.slotNames = table.slots.map Slot.name :=
  congrArg SlotTable.slotNames h.indexed

theorem mem_names_iff (h : Merged c owner table xs) {n : String} :
    n ∈ table.slots.map Slot.name ↔ n ∈ xs.map Declared.name := by
  rw [h.names, List.mem_map, List.mem_map]
  refine ⟨?_, ?_⟩
  · rintro ⟨x, hx, rfl⟩
    exact ⟨x, mem_of_mem_winners hx, rfl⟩
  · rintro ⟨x, hx, rfl⟩
    exact exists_winner hx

theorem mem_iff (h : Merged c owner table xs) {s : Slot} :
    s ∈ table.slots ↔ ∃ x ∈ winners xs, x.compile c owner = .ok s := by
  rw [← List.mem_map, h.compiled, List.mem_map]
  simp

theorem exists_slot (h : Merged c owner table xs) {x : Declared} (hx : x ∈ winners xs) :
    ∃ s ∈ table.slots, x.compile c owner = .ok s := by
  have hmem := List.mem_map_of_mem (f := Declared.compile c owner) hx
  rw [h.compiled, List.mem_map] at hmem
  obtain ⟨s, hs, hc⟩ := hmem
  exact ⟨s, hs, hc.symm⟩

theorem slotNamed?_eq_some_iff (h : Merged c owner table xs) {n : String} {s : Slot} :
    slotNamed? table.slots n = some s ↔
      ∃ x ∈ winners xs, x.name = n ∧ x.compile c owner = .ok s := by
  refine ⟨?_, ?_⟩
  · intro hs
    obtain ⟨x, hx, hc⟩ := h.mem_iff.mp (List.mem_of_find?_eq_some hs)
    have hn : s.name = n := by simpa using List.find?_some hs
    exact ⟨x, hx, by rw [← hn, Declaration.name_of_compile hc, Declared.name], hc⟩
  · rintro ⟨x, hx, rfl, hc⟩
    have hs : s.name = x.name := Declaration.name_of_compile hc
    have hsome : (slotNamed? table.slots x.name).isSome := by
      rw [isSome_slotNamed?_iff, ← hs]
      exact List.mem_map_of_mem (h.mem_iff.mpr ⟨x, hx, hc⟩)
    obtain ⟨t, ht⟩ := Option.isSome_iff_exists.mp hsome
    obtain ⟨y, hy, hyt⟩ := h.mem_iff.mp (List.mem_of_find?_eq_some ht)
    have htn : t.name = x.name := by simpa using List.find?_some ht
    have hyn : y.name = x.name := by
      rw [← htn, Declaration.name_of_compile hyt, Declared.name]
    rw [winner_unique hy hx hyn, hc, Except.ok.injEq] at hyt
    rw [ht, hyt]

theorem unique {table' : SlotTable} (h : Merged c owner table xs)
    (h' : Merged c owner table' xs) : table = table' := by
  have heq := h.compiled.symm.trans h'.compiled
  have hslots : table.slots = table'.slots :=
    List.map_injective_iff.mpr (fun _ _ h => Except.ok.inj h) heq
  calc table
    _ = .ofSlots table.slots := h.indexed
    _ = .ofSlots table'.slots := by rw [hslots]
    _ = table' := h'.indexed.symm

/-- The table after fewer declarations is a first part of the table. -/
theorem of_append {ys : List Declared} (h : Merged c owner table (xs ++ ys)) :
    ∃ before, Merged c owner before xs := by
  have hc := h.compiled
  rw [winners_append, List.map_append] at hc
  obtain ⟨before, after, hslots, hb, -⟩ := List.map_eq_append_iff.mp hc.symm
  have hr := h.relations
  rw [hslots, List.filterMap_append] at hr
  exact ⟨.ofSlots before, hb.symm, hr.of_append_left, rfl⟩

end Merged

/-- There is a table when the declarations that count compile and no two share a relation. -/
theorem exists_merged_iff :
    (∃ table, Merged c owner table xs) ↔
      (∀ x ∈ winners xs, ∃ s, x.compile c owner = .ok s) ∧
        ∀ x ∈ winners xs, ∀ y ∈ winners xs, ∀ r,
          x.2.relation? = some r → y.2.relation? = some r → x = y := by
  have hcompiled : (∃ slots : List Slot, (winners xs).map (Declared.compile c owner) =
      slots.map .ok) ↔ ∀ x ∈ winners xs, ∃ s, x.compile c owner = .ok s := by
    have h : (winners xs).map (Declared.compile c owner) ∈ Set.range (List.map .ok) ↔
        ∀ r ∈ (winners xs).map (Declared.compile c owner), r ∈ Set.range .ok := by
      rw [Set.range_list_map]
      rfl
    simpa only [Set.mem_range, List.forall_mem_map, eq_comm] using h
  have hrelations {slots : List Slot}
      (h : (winners xs).map (Declared.compile c owner) = slots.map .ok) :
      (slots.filterMap Slot.relation?).Nodup ↔ ∀ x ∈ winners xs, ∀ y ∈ winners xs, ∀ r,
        x.2.relation? = some r → y.2.relation? = some r → x = y := by
    have hmap : slots.map Slot.relation? = (winners xs).map (·.2.relation?) :=
      map_of_compiled (fun _ _ hc => (Declaration.compile_of_ok hc).2.2.1) h
    have hsame : slots.filterMap Slot.relation? =
        (winners xs).flatMap fun x => x.2.relation?.toList :=
      calc slots.filterMap Slot.relation?
        _ = (slots.map Slot.relation?).filterMap id := by rw [List.filterMap_map]; rfl
        _ = (winners xs).filterMap (·.2.relation?) := by rw [hmap, List.filterMap_map]; rfl
        _ = _ := List.filterMap_eq_flatMap_toList _ _
    rw [hsame, nodup_flatMap_iff (nodup_winners xs).of_map]
    · simp only [Option.mem_toList]
    · intro x _
      cases x.2.relation? <;> simp
  refine ⟨?_, ?_⟩
  · intro ⟨table, h⟩
    exact ⟨hcompiled.mp ⟨table.slots, h.compiled⟩, (hrelations h.compiled).mp h.relations⟩
  · intro ⟨hc, hr⟩
    obtain ⟨slots, hs⟩ := hcompiled.mpr hc
    exact ⟨.ofSlots slots, hs, (hrelations hs).mpr hr, rfl⟩

/-- Adds the slot of a declaration unless its name is taken. -/
def addDeclared (c : Conventions) (owner : SchemaId) (table : SlotTable) (x : Declared) :
    Except Failure SlotTable :=
  match x.2 with
  | .value d => addValueSlot c owner x.1 table d
  | .link d => liftFailure .compile (addLinkSlot owner x.1 table d)

theorem addDeclared_of_mem {x : Declared} (h : x.name ∈ table.slots.map Slot.name) :
    addDeclared c owner table x = .ok table := by
  obtain ⟨id, d⟩ := x
  cases d with
  | value d => exact if_pos (isSome_slotNamed?_iff.mpr h)
  | link d =>
    have hs : (slotNamed? table.slots d.name).isSome := isSome_slotNamed?_iff.mpr h
    simp only [addDeclared, addLinkSlot]
    rw [if_pos hs]
    rfl

theorem addDeclared_of_not_mem {x : Declared} {table' : SlotTable}
    (h : x.name ∉ table.slots.map Slot.name) :
    addDeclared c owner table x = .ok table' ↔
      ∃ s, x.compile c owner = .ok s ∧ table' = table.add s ∧
        ∀ r, s.relation? = some r → table.relations.lookup r = none := by
  obtain ⟨id, d⟩ := x
  cases d with
  | value d =>
    have hs : ¬(slotNamed? table.slots d.name).isSome := mt isSome_slotNamed?_iff.mp h
    have hrelation {s : Slot} (hc : compileValueSlot c owner id d = .ok s) : s.relation? = none :=
      (Declaration.compile_of_ok (d := .value d) hc).2.2.1
    simp only [addDeclared, addValueSlot]
    rw [if_neg hs, map_eq_ok_iff]
    apply exists_congr
    intro s
    refine ⟨?_, ?_⟩
    · rintro ⟨hc, rfl⟩
      exact ⟨hc, by rw [SlotTable.add, hrelation hc], by simp [hrelation hc]⟩
    · rintro ⟨hc, rfl, -⟩
      exact ⟨hc, by rw [SlotTable.add, hrelation hc]⟩
  | link d =>
    have hs : ¬(slotNamed? table.slots d.name).isSome := mt isSome_slotNamed?_iff.mp h
    simp only [addDeclared, addLinkSlot, liftFailure_eq_ok_iff]
    rw [if_neg hs]
    cases hl : table.relations.lookup d.relation with
    | some first =>
      simp only [reduceCtorEq, false_iff]
      rintro ⟨s, hc, -, hr⟩
      obtain ⟨-, -, hrel, -⟩ := Declaration.compile_of_ok (d := .link d) hc
      rw [hr d.relation hrel] at hl
      cases hl
    | none =>
      simp only [map_eq_ok_iff, Declared.compile, Declaration.compile, liftFailure_eq_ok_iff]
      refine ⟨?_, ?_⟩
      · rintro ⟨l, hc, rfl⟩
        refine ⟨.link l, ⟨l, hc, rfl⟩, ?_⟩
        obtain ⟨-, -, rfl⟩ := LinkSlot.compile_eq_ok_iff.mp hc
        refine ⟨rfl, ?_⟩
        intro r hr
        cases hr
        exact hl
      · rintro ⟨s, ⟨l, hc, rfl⟩, rfl, -⟩
        refine ⟨l, hc, ?_⟩
        obtain ⟨-, -, rfl⟩ := LinkSlot.compile_eq_ok_iff.mp hc
        rfl

/-- One declaration more keeps the table that of the declarations that count. -/
theorem Merged.addDeclared_eq_ok_iff {x : Declared} {table' : SlotTable}
    (h : Merged c owner table xs) :
    addDeclared c owner table x = .ok table' ↔ Merged c owner table' (xs ++ [x]) := by
  by_cases hx : x.name ∈ xs.map Declared.name
  · have hsame : winners (xs ++ [x]) = winners xs := by rw [winners_concat, if_pos hx]
    rw [addDeclared_of_mem (h.mem_names_iff.mpr hx), Except.ok.injEq]
    refine ⟨?_, ?_⟩
    · rintro rfl
      exact ⟨by rw [hsame, h.compiled], h.relations, h.indexed⟩
    · intro h'
      exact h.unique ⟨by rw [← hsame, h'.compiled], h'.relations, h'.indexed⟩
  · have hmore : winners (xs ++ [x]) = winners xs ++ [x] := by rw [winners_concat, if_neg hx]
    have hname {s : Slot} (hs : x.compile c owner = .ok s) :
        s.name ∉ table.slots.map Slot.name := by
      rw [Declaration.name_of_compile hs]
      exact mt h.mem_names_iff.mp hx
    have hlookup (r : String) :
        table.relations.lookup r = none ↔ r ∉ table.slots.filterMap Slot.relation? := by
      rw [h.indexed]
      exact SlotTable.lookup_relationsOf_eq_none_iff
    rw [addDeclared_of_not_mem (mt h.mem_names_iff.mp hx)]
    simp only [hlookup]
    refine ⟨?_, ?_⟩
    · rintro ⟨s, hs, rfl, hr⟩
      rw [h.indexed, SlotTable.add_ofSlots (hname hs) hr]
      refine ⟨by simp [hmore, h.compiled, hs, SlotTable.ofSlots_slots], ?_, rfl⟩
      rw [SlotTable.ofSlots_slots, List.filterMap_append]
      cases hrel : s.relation? with
      | none => simpa [hrel] using h.relations
      | some r =>
        have hnew : [s].filterMap Slot.relation? = [r] := by simp [hrel]
        rw [hnew]
        exact List.Nodup.append h.relations (List.nodup_singleton _) (by simpa using hr r hrel)
    · intro h'
      have hc := h'.compiled
      rw [hmore, List.map_append, h.compiled] at hc
      obtain ⟨l, m, hslots, hl, hm⟩ := List.map_eq_append_iff.mp hc.symm
      obtain rfl : l = table.slots := List.map_injective_iff.mpr (fun _ _ h => Except.ok.inj h) hl
      obtain ⟨s, rfl, hs⟩ := List.map_eq_singleton_iff.mp hm
      have hr : ∀ r, s.relation? = some r → r ∉ table.slots.filterMap Slot.relation? := by
        intro r hr hmem
        have hnodup := h'.relations
        rw [hslots, List.filterMap_append, List.nodup_append] at hnodup
        exact hnodup.2.2 r hmem r (by simp [hr]) rfl
      refine ⟨s, hs.symm, ?_, hr⟩
      calc table'
        _ = .ofSlots table'.slots := h'.indexed
        _ = .ofSlots (table.slots ++ [s]) := by rw [hslots]
        _ = (SlotTable.ofSlots table.slots).add s := (SlotTable.add_ofSlots (hname hs.symm) hr).symm
        _ = table.add s := by rw [← h.indexed]

theorem Merged.foldlM_eq_ok_iff {ys : List Declared} {table' : SlotTable}
    (h : Merged c owner table xs) :
    ys.foldlM (addDeclared c owner) table = .ok table' ↔ Merged c owner table' (xs ++ ys) := by
  induction ys generalizing xs table with
  | nil =>
    rw [List.foldlM_nil, List.append_nil]
    refine ⟨?_, ?_⟩
    · intro hok
      cases hok
      exact h
    · intro h'
      rw [h.unique h']
      rfl
  | cons y ys ih =>
    rw [List.foldlM_cons, bind_eq_ok_iff, List.append_cons]
    refine ⟨?_, ?_⟩
    · intro ⟨mid, hy, hys⟩
      exact (ih (h.addDeclared_eq_ok_iff.mp hy)).mp hys
    · intro h'
      obtain ⟨mid, hmid⟩ := h'.of_append
      exact ⟨mid, h.addDeclared_eq_ok_iff.mpr hmid, (ih hmid).mpr h'⟩

theorem liftFailure_foldlM {ε α β : Type} (f : ε → Failure) (g : β → α → Except ε β) (b : β)
    (l : List α) :
    liftFailure f (l.foldlM g b) = l.foldlM (fun b a => liftFailure f (g b a)) b := by
  induction l generalizing b with
  | nil => rfl
  | cons a l ih =>
    rw [List.foldlM_cons, List.foldlM_cons]
    cases g b a with
    | error e => rfl
    | ok b' => exact ih b'

theorem merge_eq (s : Schema) :
    merge c owner table s = (do
      liftFailure .compile (checkNames c.settings owner s.id table.slots [] (declaredNames s))
      (s.declarations.map (s.id, ·)).foldlM (addDeclared c owner) table) := by
  simp only [merge, Schema.declarations, liftFailure_foldlM, List.map_append, List.foldlM_append,
    List.foldlM_map]
  rfl

theorem checkNames_eq_ok_iff {settings : Settings} {slots : List Slot} {declaring : SchemaId}
    {seen : List String} {ds : List (String × SlotKind)} :
    checkNames settings owner declaring slots seen ds = .ok () ↔
      (∀ d ∈ ds, isReserved settings d.1 = false) ∧ (ds.map (·.1)).Nodup ∧
        (∀ d ∈ ds, d.1 ∉ seen) ∧
          ∀ d ∈ ds, ∀ s, slotNamed? slots d.1 = some s → s.kind = d.2 := by
  induction ds generalizing seen with
  | nil => simp [checkNames]
  | cons d ds ih =>
    obtain ⟨name, kind⟩ := d
    rw [checkNames]
    simp only [List.forall_mem_cons, List.map_cons, List.nodup_cons]
    by_cases hres : isReserved settings name
    · simp [hres]
    rw [if_neg hres]
    by_cases hseen : name ∈ seen
    · simp [hseen]
    rw [if_neg hseen]
    -- what is left to check is the same whether the name has a slot of this kind or none
    have hrest : checkNames settings owner declaring slots (name :: seen) ds = .ok () ↔
        (isReserved settings name = false ∧ ∀ d ∈ ds, isReserved settings d.1 = false) ∧
          (name ∉ ds.map (·.1) ∧ (ds.map (·.1)).Nodup) ∧ (name ∉ seen ∧ ∀ d ∈ ds, d.1 ∉ seen) ∧
            ∀ d ∈ ds, ∀ s, slotNamed? slots d.1 = some s → s.kind = d.2 := by
      have hname : (∀ d ∈ ds, d.1 ∉ name :: seen) ↔
          name ∉ ds.map (·.1) ∧ ∀ d ∈ ds, d.1 ∉ seen := by
        simp only [List.mem_cons, not_or, List.mem_map, not_exists, not_and, ← forall_and]
      rw [ih, hname]
      simp only [hres, hseen, not_false_eq_true, true_and]
      tauto
    cases hs : slotNamed? slots name with
    | none =>
      simp only [reduceCtorEq, false_implies, implies_true, true_and]
      exact hrest
    | some s =>
      by_cases hk : s.kind = kind
      · simp only [Option.some.injEq, forall_eq', hk, true_and]
        exact hrest
      · simp [hk]

theorem declaredNames_eq (s : Schema) :
    declaredNames s = s.declarations.map fun d => (d.name, d.kind) := by
  simp only [declaredNames, Schema.declarations, List.map_append, List.map_map]
  rfl

/-- Each name once, and none that is reserved. -/
def NamesWell (settings : Settings) (s : Schema) : Prop :=
  (s.declarations.map Declaration.name).Nodup ∧
    ∀ d ∈ s.declarations, d.name ∉ builtInNames ∧ d.name ∉ settings.reservedSlotNames

theorem checkNames_declaredNames_iff {settings : Settings} {slots : List Slot} {s : Schema} :
    checkNames settings owner s.id slots [] (declaredNames s) = .ok () ↔
      NamesWell settings s ∧
        ∀ d ∈ s.declarations, ∀ t, slotNamed? slots d.name = some t → t.kind = d.kind := by
  rw [checkNames_eq_ok_iff, declaredNames_eq]
  simp only [NamesWell, isReserved_eq_false_iff, List.map_map, List.forall_mem_map,
    List.not_mem_nil, not_false_eq_true, implies_true, true_and]
  exact ⟨fun ⟨hres, hnodup, hkinds⟩ => ⟨⟨hnodup, hres⟩, hkinds⟩,
    fun ⟨⟨hnodup, hres⟩, hkinds⟩ => ⟨hres, hnodup, hkinds⟩⟩

/-- Names that are there already keep their kind exactly when all declarations of a name agree. -/
theorem Merged.keepsKinds_iff {s : Schema} (h : Merged c owner table xs) (hk : SameKinds xs)
    (hs : (s.declarations.map Declaration.name).Nodup) :
    (∀ d ∈ s.declarations, ∀ t, slotNamed? table.slots d.name = some t → t.kind = d.kind) ↔
      SameKinds (xs ++ s.declarations.map (s.id, ·)) := by
  have hwinner {x : Declared} {t : Slot} (hc : x.compile c owner = .ok t) : t.kind = x.kind :=
    (Declaration.compile_of_ok hc).2.1
  refine ⟨?_, ?_⟩
  · intro hkeep
    -- an older declaration agrees with the one that counts, whose slot is what was looked up
    have hcross : ∀ x ∈ xs, ∀ d ∈ s.declarations, x.name = d.name → x.kind = d.kind := by
      intro x hx d hd hname
      obtain ⟨w, hw, hwx⟩ := exists_winner hx
      obtain ⟨t, ht⟩ : ∃ t, slotNamed? table.slots d.name = some t := by
        rw [← Option.isSome_iff_exists, isSome_slotNamed?_iff, h.mem_names_iff, ← hname]
        exact List.mem_map_of_mem hx
      obtain ⟨y, hy, hyd, hc⟩ := h.slotNamed?_eq_some_iff.mp ht
      rw [← hkeep d hd t ht, hwinner hc]
      exact hk x hx y (mem_of_mem_winners hy) (hname.trans hyd.symm)
    intro x hx y hy hname
    rcases List.mem_append.mp hx with hx | hx <;> rcases List.mem_append.mp hy with hy | hy
    · exact hk x hx y hy hname
    · obtain ⟨d, hd, rfl⟩ := List.mem_map.mp hy
      exact hcross x hx d hd hname
    · obtain ⟨d, hd, rfl⟩ := List.mem_map.mp hx
      exact (hcross y hy d hd hname.symm).symm
    · obtain ⟨d, hd, rfl⟩ := List.mem_map.mp hx
      obtain ⟨e, he, rfl⟩ := List.mem_map.mp hy
      rw [List.inj_on_of_nodup_map hs hd he hname]
  · intro hsame d hd t ht
    obtain ⟨x, hx, hxd, hc⟩ := h.slotNamed?_eq_some_iff.mp ht
    rw [hwinner hc]
    exact hsame x (List.mem_append_left _ (mem_of_mem_winners hx)) (s.id, d)
      (List.mem_append_right _ (List.mem_map_of_mem hd)) hxd

theorem Merged.merge_eq_ok_iff {s : Schema} {table' : SlotTable} (h : Merged c owner table xs)
    (hk : SameKinds xs) :
    merge c owner table s = .ok table' ↔
      NamesWell c.settings s ∧ SameKinds (xs ++ s.declarations.map (s.id, ·)) ∧
        Merged c owner table' (xs ++ s.declarations.map (s.id, ·)) := by
  rw [merge_eq, bind_eq_ok_iff]
  simp only [liftFailure_eq_ok_iff, h.foldlM_eq_ok_iff]
  refine ⟨?_, ?_⟩
  · rintro ⟨⟨⟩, hcheck, hm⟩
    obtain ⟨hnames, hkinds⟩ := checkNames_declaredNames_iff.mp hcheck
    exact ⟨hnames, (h.keepsKinds_iff hk hnames.1).mp hkinds, hm⟩
  · intro ⟨hnames, hsame, hm⟩
    have hkinds := (h.keepsKinds_iff hk hnames.1).mpr hsame
    exact ⟨(), checkNames_declaredNames_iff.mpr ⟨hnames, hkinds⟩, hm⟩

theorem Merged.foldlM_merge_eq_ok_iff {lineage : List Schema} {table' : SlotTable}
    (h : Merged c owner table xs) (hk : SameKinds xs) :
    lineage.foldlM (merge c owner) table = .ok table' ↔
      (∀ s ∈ lineage, NamesWell c.settings s) ∧ SameKinds (xs ++ declared lineage) ∧
        Merged c owner table' (xs ++ declared lineage) := by
  -- schema by schema, over all that was declared before
  induction lineage generalizing xs table with
  | nil =>
    have hnil : xs ++ declared [] = xs := List.append_nil xs
    rw [List.foldlM_nil, hnil]
    refine ⟨?_, ?_⟩
    · intro hok
      cases hok
      exact ⟨by simp, hk, h⟩
    · intro ⟨_, _, h'⟩
      rw [h.unique h']
      rfl
  | cons s lineage ih =>
    rw [List.foldlM_cons, bind_eq_ok_iff, declared_cons, ← List.append_assoc,
      List.forall_mem_cons]
    refine ⟨?_, ?_⟩
    · intro ⟨mid, hs, hrest⟩
      obtain ⟨hnames, hkinds, hmid⟩ := (h.merge_eq_ok_iff hk).mp hs
      obtain ⟨hall, hall', htable⟩ := (ih hmid hkinds).mp hrest
      exact ⟨⟨hnames, hall⟩, hall', htable⟩
    · intro ⟨⟨hnames, hall⟩, hkinds, htable⟩
      obtain ⟨mid, hmid⟩ := htable.of_append
      exact ⟨mid, (h.merge_eq_ok_iff hk).mpr ⟨hnames, hkinds.of_append, hmid⟩,
        (ih hmid hkinds.of_append).mpr ⟨hall, hkinds, htable⟩⟩

/-- Merging a whole lineage. -/
theorem foldlM_merge_eq_ok_iff {lineage : List Schema} :
    lineage.foldlM (merge c owner) {} = .ok table ↔
      (∀ s ∈ lineage, NamesWell c.settings s) ∧ SameKinds (declared lineage) ∧
        Merged c owner table (declared lineage) :=
  Merged.foldlM_merge_eq_ok_iff .empty (by simp [SameKinds])

end HyperSchema.Prototype
