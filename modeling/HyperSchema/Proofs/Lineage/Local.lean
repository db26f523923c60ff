import HyperSchema.Proofs.Lineage.Bases

namespace HyperSchema

/-- The second outcome is the first one, unless that one misses a schema. -/
def Stable {α : Type} (x y : Except CompileError α) : Prop :=
  (∃ m, x = .error (.schemaNotFound m)) ∨ y = x

theorem Stable.bind {α β : Type} {x y : Except CompileError α} {f g : α → Except CompileError β}
    (h : Stable x y) (hfg : ∀ a, x = .ok a → Stable (f a) (g a)) :
    Stable (x >>= f) (y >>= g) := by
  obtain ⟨m, rfl⟩ | rfl := h
  · exact .inl ⟨m, rfl⟩
  · cases y with
    | ok a => exact hfg a rfl
    | error e => exact .inr rfl

namespace Lineage

variable {store store' : Store} {root : SchemaId} {trail rest : List SchemaId}
  {found : List Schema}

/-- The schemas found in the end. -/
def search (store : Store) (root : SchemaId) (trail bases : List SchemaId) (found : List Schema) :
    Except CompileError (List Schema) :=
  (visit store root trail bases found).map (·.val)

theorem search_nil : search store root trail [] found = .ok found := by
  rw [search, visit]
  rfl

theorem search_on_path {b : SchemaId} (hp : b ∈ root :: trail) :
    search store root trail (b :: rest) found =
      .error (.cyclicInheritance root (root :: trail ++ [b])) := by
  rw [search, visit, if_pos hp]
  rfl

theorem search_found {b : SchemaId} (hp : b ∉ root :: trail) (hf : b ∈ found.map (·.id)) :
    search store root trail (b :: rest) found = search store root trail rest found := by
  rw [search, visit, if_neg hp, dif_pos hf, search]

theorem search_missing {b : SchemaId} (hp : b ∉ root :: trail) (hf : b ∉ found.map (·.id))
    (hs : store.find? b = none) :
    search store root trail (b :: rest) found = .error (.schemaNotFound b) := by
  rw [search, visit, if_neg hp, dif_neg hf]
  split
  next => rfl
  next s hs' => simp [hs] at hs'

theorem search_kept {b : SchemaId} {s : Schema} (hp : b ∉ root :: trail)
    (hf : b ∉ found.map (·.id)) (hs : store.find? b = some s) :
    search store root trail (b :: rest) found =
      search store root (trail ++ [b]) s.bases (found ++ [s]) >>= search store root trail rest := by
  rw [search, visit, if_neg hp, dif_neg hf, search]
  split
  next hnone => simp [hs] at hnone
  next t ht =>
    rw [hs, Option.some.injEq] at ht
    subst ht
    rcases visit store root (trail ++ [b]) s.bases (found ++ [s]) with e | ⟨inner, hi⟩
    · rfl
    · dsimp only [Except.map, bind, Except.bind, search]
      rcases visit store root trail rest inner with e | ⟨all, ha⟩
      · rfl
      · rfl

/-- Stores that hold the same under every identifier are searched the same way, also when the search
fails. -/
theorem search_congr (hsame : ∀ x, store'.find? x = store.find? x) {bases : List SchemaId} :
    search store' root trail bases found = search store root trail bases found := by
  -- both searches are always in the same case, as each case is told by one look-up at most
  fun_induction visit store root trail bases found with
  | case1 trail found => rw [search_nil, search_nil]
  | case2 trail found b rest hp => rw [search_on_path hp, search_on_path hp]
  | case3 trail found b rest hp hf ih => rw [search_found hp hf, search_found hp hf, ih]
  | case4 trail found b rest hp hf hs =>
    rw [search_missing hp hf hs, search_missing hp hf ((hsame b).trans hs)]
  | case5 trail found b rest hp hf s hs e hinner ih =>
    rw [search_kept hp hf hs, search_kept hp hf ((hsame b).trans hs), ih, search, hinner]
    rfl
  | case6 trail found b rest hp hf s hs inner hi hinner e hrest ihInner ihRest
  | case7 trail found b rest hp hf s hs inner hi hinner e' he' hrest ihInner ihRest =>
    rw [search_kept hp hf hs, search_kept hp hf ((hsame b).trans hs), ihInner, search, hinner]
    exact ihRest

theorem bases_congr (hsame : ∀ x, store'.find? x = store.find? x) (s : Schema) :
    bases store' s = bases store s := search_congr hsame

/-- Nothing reached declares a base that is not reached. -/
def Closed (store : Store) (reached : SchemaId → Prop) : Prop :=
  ∀ x s, reached x → store.find? x = some s → ∀ b ∈ s.bases, reached b

theorem closed_derives (store : Store) (id : SchemaId) :
    Closed store fun b => b = id ∨ Derives store id b := by
  intro x s hx hs b hb
  have hxb : Derives store x b := .single ⟨s, hs, hb⟩
  obtain rfl | hx := hx
  · exact .inr hxb
  · exact .inr (hx.trans hxb)

/-- The search looks up nothing but what is reached. -/
theorem search_stable {reached : SchemaId → Prop} (hclosed : Closed store reached)
    (hheld : ∀ x s, reached x → store.find? x = some s → store'.find? x = some s)
    {bases : List SchemaId} (hbases : ∀ b ∈ bases, reached b) :
    Stable (search store root trail bases found) (search store' root trail bases found) := by
  fun_induction visit store root trail bases found with
  | case1 trail found => exact .inr (by rw [search_nil, search_nil])
  | case2 trail found b rest hp => exact .inr (by rw [search_on_path hp, search_on_path hp])
  | case3 trail found b rest hp hf ih =>
    rw [search_found hp hf, search_found hp hf]
    exact ih fun d hd => hbases d (List.mem_cons_of_mem _ hd)
  | case4 trail found b rest hp hf hs => exact .inl ⟨b, search_missing hp hf hs⟩
  | case5 trail found b rest hp hf s hs e hinner ih =>
    have hb := hbases b List.mem_cons_self
    rw [search_kept hp hf hs, search_kept hp hf (hheld b s hb hs)]
    refine (ih (hclosed b s hb hs)).bind fun a ha => ?_
    rw [search, hinner] at ha
    cases ha
  | case6 trail found b rest hp hf s hs inner hi hinner e hrest ihInner ihRest
  | case7 trail found b rest hp hf s hs inner hi hinner e' he' hrest ihInner ihRest =>
    have hb := hbases b List.mem_cons_self
    rw [search_kept hp hf hs, search_kept hp hf (hheld b s hb hs)]
    refine (ihInner (hclosed b s hb hs)).bind fun a ha => ?_
    rw [search, hinner] at ha
    cases ha
    exact ihRest fun d hd => hbases d (List.mem_cons_of_mem _ hd)

theorem bases_stable {id : SchemaId} {s : Schema} (hs : store.find? id = some s)
    (hheld : ∀ b t, (b = id ∨ Derives store id b) → store.find? b = some t →
      store'.find? b = some t) :
    Stable (bases store s) (bases store' s) :=
  search_stable (closed_derives store id) hheld (closed_derives store id id s (.inl rfl) hs)

/-- It is enough to hold the lineage. -/
theorem IsLineage.held {id : SchemaId} {lineage : List Schema} (h : IsLineage store id lineage)
    (hheld : ∀ s ∈ lineage, store'.find? s.id = some s) :
    ∀ b t, (b = id ∨ Derives store id b) → store.find? b = some t → store'.find? b = some t := by
  intro b t hb ht
  obtain ⟨s, hs, rfl⟩ := List.mem_map.mp ((h.mem_ids_iff b).mpr hb)
  rw [h.kept s hs, Option.some.injEq] at ht
  exact ht ▸ hheld s hs

end Lineage

end HyperSchema
