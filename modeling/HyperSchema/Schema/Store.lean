import HyperSchema.Schema.Declaration

namespace HyperSchema

/-- The schemas kept so far, the first under each identifier. -/
structure Store where
  schemas : List Schema := []
  distinct : (schemas.map (·.id)).Nodup := by simp

namespace Store

def empty : Store := {}

def find? (store : Store) (id : SchemaId) : Option Schema := store.schemas.find? (·.id = id)

theorem find?_eq_none_iff {store : Store} {id : SchemaId} :
    store.find? id = none ↔ id ∉ store.schemas.map (·.id) := by
  simp [find?, List.find?_eq_none]

theorem mem_of_find? {store : Store} {id : SchemaId} {s : Schema} (h : store.find? id = some s) :
    s ∈ store.schemas ∧ s.id = id :=
  ⟨List.mem_of_find?_eq_some h, by simpa using List.find?_some h⟩

/-- Adds a schema unless its identifier is taken. -/
def keep (store : Store) (s : Schema) : Store :=
  if h : s.id ∈ store.schemas.map (·.id) then store
  else ⟨store.schemas ++ [s], by
    rw [List.map_append, List.nodup_append]
    exact ⟨store.distinct, by simp, by grind⟩⟩

/-- What is kept stays kept. -/
theorem find?_keep {store : Store} {id : SchemaId} {t : Schema} (h : store.find? id = some t)
    (s : Schema) : (store.keep s).find? id = some t := by
  unfold keep
  split
  · exact h
  · rw [find?, List.find?_append, ← find?, h, Option.some_or]

/-- The schema kept under the identifier of `s` once `s` has been offered. -/
def kept (store : Store) (s : Schema) : Schema := (store.find? s.id).getD s

def size (store : Store) : Nat := store.schemas.length

/-- All identifiers in ascending order. -/
def ids (store : Store) : List SchemaId :=
  (Text.nameSet (store.schemas.map (·.id.text))).map SchemaId.mk

end Store

end HyperSchema
