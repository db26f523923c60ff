import HyperSchema.Failure
import HyperSchema.Schema.Store

namespace HyperSchema

namespace Lineage

/-- The work left on some schemas: one for each not found yet, and one for each base it names. -/
def unseen (found : List Schema) : List Schema → Nat
  | [] => 0
  | s :: schemas =>
    unseen found schemas + if s.id ∈ found.map (·.id) then 0 else s.bases.length + 1

theorem unseen_append_le (found added schemas : List Schema) :
    unseen (found ++ added) schemas ≤ unseen found schemas := by
  induction schemas with
  | nil => exact Nat.le_refl _
  | cons t schemas ih =>
    simp only [unseen, List.map_append, List.mem_append]
    split <;> split <;> grind

theorem unseen_push_lt {s : Schema} {found schemas : List Schema} (hs : s ∈ schemas)
    (hn : s.id ∉ found.map (·.id)) :
    s.bases.length + unseen (found ++ [s]) schemas < unseen found schemas := by
  induction schemas with
  | nil => cases hs
  | cons t schemas ih =>
    obtain rfl | hs := List.mem_cons.mp hs
    · have hin : s.id ∈ (found ++ [s]).map (·.id) := by simp
      have hle := unseen_append_le found [s] schemas
      rw [unseen, unseen, if_pos hin, if_neg hn]
      omega
    · have hlt := ih hs
      rw [unseen, unseen]
      split <;> split <;> grind

/-- Adds to `found` what is reached from `bases`. The identifiers on the way from `root` to here
are `root` and then `trail`; meeting one of them again closes a cycle. -/
def visit (store : Store) (root : SchemaId) (trail bases : List SchemaId) (found : List Schema) :
    Except CompileError { all : List Schema // ∃ added, all = found ++ added } :=
  match bases with
  | [] => .ok ⟨found, [], by simp⟩
  | b :: rest =>
    if b ∈ root :: trail then .error (.cyclicInheritance root (root :: trail ++ [b]))
    else if hf : b ∈ found.map (·.id) then visit store root trail rest found
    else
      match hs : store.find? b with
      | none => .error (.schemaNotFound b)
      | some s =>
        match visit store root (trail ++ [b]) s.bases (found ++ [s]) with
        | .error e => .error e
        | .ok ⟨inner, hi⟩ =>
          match visit store root trail rest inner with
          | .error e => .error e
          | .ok ⟨all, ha⟩ => .ok ⟨all, by
              obtain ⟨t, rfl⟩ := hi
              obtain ⟨u, rfl⟩ := ha
              exact ⟨s :: t ++ u, by simp⟩⟩
termination_by bases.length + unseen found store.schemas
decreasing_by
  · simp
  · obtain ⟨hm, rfl⟩ := Store.mem_of_find? hs
    have hlt := unseen_push_lt hm hf
    rw [List.length_cons]
    omega
  · obtain ⟨t, rfl⟩ := hi
    obtain ⟨hm, rfl⟩ := Store.mem_of_find? hs
    have hlt := unseen_push_lt hm hf
    have hle := unseen_append_le (found ++ [s]) t store.schemas
    rw [List.length_cons]
    omega

/-- All bases of a schema, direct or not: each once, depth first, in declared order. -/
def bases (store : Store) (schema : Schema) : Except CompileError (List Schema) :=
  (visit store schema.id [] schema.bases []).map (·.val)

end Lineage

end HyperSchema
