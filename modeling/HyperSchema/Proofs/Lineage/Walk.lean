import HyperSchema.Lineage
import Mathlib.Logic.Relation

namespace HyperSchema.Lineage

/-- The schema kept under `a` declares the base `b`. -/
def Inherits (store : Store) (a b : SchemaId) : Prop :=
  ∃ s, store.find? a = some s ∧ b ∈ s.bases

/-- `b` is reached from `a` over declared bases, in one step or more. -/
def Derives (store : Store) : SchemaId → SchemaId → Prop := Relation.TransGen (Inherits store)

/-- The walk from a list of identifiers: each identifier, then the walk from its bases, then the
walk from the identifiers after it. What can be reached in several ways is met several times. -/
inductive Walk (store : Store) : List SchemaId → List SchemaId → Prop
  | nil : Walk store [] []
  | cons {b : SchemaId} {s : Schema} {rest below after : List SchemaId}
      (kept : store.find? b = some s) (down : Walk store s.bases below)
      (across : Walk store rest after) : Walk store (b :: rest) (b :: (below ++ after))

variable {store : Store}

theorem derives_iff_of_find? {a x : SchemaId} {s : Schema} (hs : store.find? a = some s) :
    Derives store a x ↔ ∃ b ∈ s.bases, x = b ∨ Derives store b x := by
  refine ⟨?_, ?_⟩
  · intro h
    obtain ⟨b, ⟨t, ht, hb⟩, hbx⟩ := Relation.TransGen.head'_iff.mp h
    rw [hs, Option.some.injEq] at ht
    subst ht
    obtain rfl | h := Relation.reflTransGen_iff_eq_or_transGen.mp hbx
    · exact ⟨_, hb, .inl rfl⟩
    · exact ⟨b, hb, .inr h⟩
  · rintro ⟨b, hb, rfl | h⟩
    · exact .single ⟨s, hs, hb⟩
    · exact .head ⟨s, hs, hb⟩ h

theorem Walk.unique {ids v w : List SchemaId} (hv : Walk store ids v) (hw : Walk store ids w) :
    v = w := by
  induction hv generalizing w with
  | nil => cases hw; rfl
  | cons kept _ _ down across =>
    cases hw with
    | cons kept' down' across' =>
      rw [kept, Option.some.injEq] at kept'
      subst kept'
      rw [down down', across across']

theorem Walk.mem_iff {ids w : List SchemaId} (h : Walk store ids w) (x : SchemaId) :
    x ∈ w ↔ ∃ b ∈ ids, x = b ∨ Derives store b x := by
  -- on the walk and not on paths of derivation, which need not end
  induction h with
  | nil => simp
  | @cons b s rest below after kept _ _ down across =>
    rw [List.mem_cons, List.mem_append, down, across, ← derives_iff_of_find? kept]
    simp only [List.mem_cons, or_and_right, exists_or, exists_eq_left, or_assoc]

theorem Walk.mem_bases_iff {a : SchemaId} {s : Schema} {w : List SchemaId}
    (hs : store.find? a = some s) (h : Walk store s.bases w) (x : SchemaId) :
    x ∈ w ↔ Derives store a x := by
  rw [h.mem_iff, derives_iff_of_find? hs]

/-- Whatever a walk meets is kept and has a shorter walk of its own. -/
theorem Walk.exists_shorter {ids w : List SchemaId} (h : Walk store ids w) {x : SchemaId}
    (hx : x ∈ w) : ∃ s v, store.find? x = some s ∧ Walk store s.bases v ∧ v.length < w.length := by
  induction h with
  | nil => simp at hx
  | @cons b s rest below after kept walk _ down across =>
    simp only [List.length_cons, List.length_append]
    rcases List.mem_cons.mp hx with rfl | hx
    · exact ⟨s, below, kept, walk, by omega⟩
    · rcases List.mem_append.mp hx with hx | hx
      · obtain ⟨t, v, ht, hv, hlt⟩ := down hx
        exact ⟨t, v, ht, hv, by omega⟩
      · obtain ⟨t, v, ht, hv, hlt⟩ := across hx
        exact ⟨t, v, ht, hv, by omega⟩

/-- A schema that derived from itself would have a walk shorter than its walk. -/
theorem Walk.not_derives_self {ids w : List SchemaId} (h : Walk store ids w) {x : SchemaId}
    (hx : x ∈ w) : ¬Derives store x x := by
  intro hd
  obtain ⟨s, v, hs, hv, -⟩ := h.exists_shorter hx
  -- the walk from `x` meets `x` again, from where the very same walk would be shorter
  obtain ⟨t, u, ht, hu, hlt⟩ := hv.exists_shorter ((hv.mem_bases_iff hs x).mpr hd)
  rw [hs, Option.some.injEq] at ht
  subst ht
  rw [hu.unique hv] at hlt
  omega

/-- Where every schema declares one base at most, each one derives from those behind it. -/
theorem Walk.chain {ids w : List SchemaId} (h : Walk store ids w) (hids : ids.length ≤ 1)
    (hbases : ∀ x ∈ w, ∀ s, store.find? x = some s → s.bases.length ≤ 1) :
    w.Pairwise (Derives store) := by
  induction h with
  | nil => exact List.Pairwise.nil
  | @cons b s rest below after kept walk across down _ =>
    obtain rfl : rest = [] := List.length_eq_zero_iff.mp (by simpa using hids)
    cases across
    rw [List.append_nil] at hbases ⊢
    refine List.pairwise_cons.mpr ⟨fun y hy => (walk.mem_bases_iff kept y).mp hy, ?_⟩
    refine down (hbases b List.mem_cons_self s kept) ?_
    exact fun x hx => hbases x (List.mem_cons_of_mem b hx)

theorem Walk.mono {store' : Store} {ids w : List SchemaId}
    (hle : ∀ id s, store.find? id = some s → store'.find? id = some s)
    (h : Walk store ids w) : Walk store' ids w := by
  induction h with
  | nil => exact .nil
  | cons kept _ _ down across => exact .cons (hle _ _ kept) down across

theorem walk_singleton_iff {a : SchemaId} {s : Schema} {w : List SchemaId}
    (hs : store.find? a = some s) :
    Walk store [a] w ↔ ∃ below, Walk store s.bases below ∧ w = a :: below := by
  refine ⟨?_, ?_⟩
  · intro h
    cases h with
    | @cons _ t _ below _ kept down across =>
      rw [hs, Option.some.injEq] at kept
      subst kept
      cases across
      exact ⟨below, down, by rw [List.append_nil]⟩
  · rintro ⟨below, h, rfl⟩
    simpa only [List.append_nil] using Walk.cons hs h .nil

end HyperSchema.Lineage
