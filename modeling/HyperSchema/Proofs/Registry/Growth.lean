import HyperSchema.Proofs.Prototype.Local
import HyperSchema.Proofs.Registry.Lookups

namespace HyperSchema

namespace Store

variable (store : Store)

theorem find?_keep_eq (s : Schema) (id : SchemaId) :
    (store.keep s).find? id = (store.find? id).or ([s].find? (·.id = id)) := by
  unfold keep
  split
  next h =>
    cases hfound : store.find? id with
    | some t => rfl
    | none =>
      have hne : s.id ≠ id := by
        rintro rfl
        exact find?_eq_none_iff.mp hfound h
      simp [hne]
  next => exact List.find?_append

theorem mem_ids_iff {id : SchemaId} : id ∈ store.ids ↔ (store.find? id).isSome = true := by
  have hids : id ∈ store.ids ↔ id ∈ store.schemas.map (·.id) := by
    obtain ⟨text⟩ := id
    simp only [ids, List.mem_map, Text.mem_nameSet, SchemaId.mk.injEq, exists_eq_right]
    exact exists_congr fun s => and_congr_right fun _ => by
      rw [← SchemaId.mk.injEq]
  rw [hids, Option.isSome_iff_ne_none, ne_eq, find?_eq_none_iff, not_not]

theorem ascending_ids : store.ids.Pairwise (·.text < ·.text) :=
  List.pairwise_map.mpr (Text.ascending_nameSet _)

end Store

/-- The schema that a request asks to keep. A text that is no schema offers none. -/
def Request.offered? : Request → Option Schema
  | keep s => some s
  | load text => Schema.read? text
  | _ => none

theorem Request.find?_storeAfter_eq (store : Store) (q : Request) (id : SchemaId) :
    (q.storeAfter store).find? id =
      (store.find? id).or (q.offered?.toList.find? (·.id = id)) := by
  cases q with
  | keep s => exact store.find?_keep_eq s id
  | load text =>
    rw [storeAfter, offered?]
    cases Schema.read? text with
    | none => exact (Option.or_none).symm
    | some s => exact store.find?_keep_eq s id
  | _ => exact (Option.or_none).symm

namespace Registry
open RegistryM

variable {c : Conventions} {store : Store} {r : Registry}

def fresh (c : Conventions) : Registry := { conventions := c }

/-- The registry after requests made one after the other. -/
def run (r : Registry) (qs : List Request) : Registry :=
  qs.foldl (fun r q => ((answer q).exec r).2) r

/-- The schemas whose prototypes the requests obtain, in order. -/
def obtainedBy (r : Registry) : List Request → List SchemaId
  | [] => []
  | q :: qs => r.obtained q ++ obtainedBy ((answer q).exec r).2 qs

theorem run_append (r : Registry) (qs more : List Request) :
    r.run (qs ++ more) = (r.run qs).run more := List.foldl_append

theorem Coherent.run (h : Coherent c store r) (qs : List Request) :
    Coherent c (qs.foldl Request.storeAfter store) (r.run qs) := by
  induction qs generalizing r store with
  | nil => exact h
  | cons q qs ih => exact ih (answer_eq_uncached h q).2

theorem trail_run (h : Coherent c store r) (qs : List Request) :
    Trail r (obtainedBy r qs) (r.run qs) := by
  induction qs generalizing r store with
  | nil => exact .start
  | cons q qs ih => exact (trail_answer h q).trans (ih (answer_eq_uncached h q).2)

theorem find?_foldl_storeAfter_eq (store : Store) (qs : List Request) (id : SchemaId) :
    (qs.foldl Request.storeAfter store).find? id =
      (store.find? id).or ((qs.filterMap Request.offered?).find? (·.id = id)) := by
  induction qs generalizing store with
  | nil => exact (Option.or_none).symm
  | cons q qs ih =>
    rw [List.foldl_cons, ih, Request.find?_storeAfter_eq, Option.or_assoc, ← List.find?_append]
    cases h : q.offered? <;> simp [h]

section Later

variable (h : Coherent c store r) (qs : List Request)
include h

theorem find?_run (id : SchemaId) : (r.run qs).store.find? id =
    (store.find? id).or ((qs.filterMap Request.offered?).find? (·.id = id)) := by
  rw [(h.run qs).schemas, find?_foldl_storeAfter_eq]

theorem find?_run_of_find? {id : SchemaId} {s : Schema} (hs : r.store.find? id = some s) :
    (r.run qs).store.find? id = some s := by
  rw [find?_run h, ← h.schemas, hs, Option.some_or]

/-- A prototype that is obtained once is obtained at any later time, whatever happens meanwhile. -/
theorem prototype_run_of_ok {id : SchemaId} {p : Prototype}
    (hp : ((prototype id).exec r).1 = .ok p) : ((prototype id).exec (r.run qs)).1 = .ok p := by
  rw [(answers_prototype id r h).1] at hp
  rw [(answers_prototype id (r.run qs) (h.run qs)).1]
  exact Prototype.compile_mono (fun _ _ hs => Prototype.find?_foldl_storeAfter hs qs) hp

end Later

/-- As many events tell of a compilation as there are prototypes remembered. -/
theorem Accounted.count_log (h : Accounted r) (id : SchemaId) :
    (r.log.filterMap Event.compiled?).count id = if r.isCompiled id then 1 else 0 := by
  rw [h.log, List.count_reverse, h.nodup.count]
  simp only [isCompiled_eq_true_iff]

theorem coherent_fresh (c : Conventions) : Coherent c .empty (fresh c) := .empty c .empty []

theorem accounted_fresh (c : Conventions) : Accounted (fresh c) := ⟨rfl, List.nodup_nil⟩

/-- Schemas and prototypes stay as they are first kept and first obtained, be it that requests fail
or that schemas are kept late. Remembered are the prototypes that requests obtain, which are those
that the log tells of, and each of them was compiled once. -/
theorem run_only_adds (c : Conventions) (qs : List Request) :
    (∀ id, ((fresh c).run qs).store.find? id =
      (qs.filterMap Request.offered?).find? (·.id = id)) ∧
    (∀ more id s, ((fresh c).run qs).store.find? id = some s →
      ((fresh c).run (qs ++ more)).store.find? id = some s) ∧
    (∀ text, Schema.read? text = none →
      (fresh c).run (qs ++ [.load text]) = (fresh c).run qs) ∧
    ((fresh c).run qs).store.ids.Pairwise (·.text < ·.text) ∧
    (∀ id, id ∈ ((fresh c).run qs).store.ids ↔
      (((fresh c).run qs).store.find? id).isSome = true) ∧
    (∀ more id p, ((prototype id).exec ((fresh c).run qs)).1 = .ok p →
      ((prototype id).exec ((fresh c).run (qs ++ more))).1 = .ok p) ∧
    (∀ more id p, ((fresh c).run qs).prototypes.lookup id = some p →
      ((fresh c).run (qs ++ more)).prototypes.lookup id = some p) ∧
    (∀ id, ((fresh c).run qs).isCompiled id = true ↔ id ∈ obtainedBy (fresh c) qs) ∧
    ((fresh c).run qs).log.filterMap Event.obtained? = obtainedBy (fresh c) qs ∧
    ∀ id, (((fresh c).run qs).log.filterMap Event.compiled?).count id =
      if ((fresh c).run qs).isCompiled id then 1 else 0 := by
  have h := (coherent_fresh c).run qs
  have htrail := trail_run (coherent_fresh c) qs
  refine ⟨?_, ?_, ?_, Store.ascending_ids _, fun id => Store.mem_ids_iff _, ?_, ?_, ?_, ?_, ?_⟩
  · intro id
    rw [find?_run (coherent_fresh c) qs]
    rfl
  · intro more id s hs
    rw [run_append]
    exact find?_run_of_find? h more hs
  · intro text htext
    rw [run_append]
    exact congrArg Prod.snd (exec_load_of_none htext _)
  · intro more id p hp
    rw [run_append]
    exact prototype_run_of_ok h more hp
  · intro more id p hp
    rw [run_append]
    exact (trail_run h more).lookup_of_lookup hp
  · intro id
    rw [htrail.isCompiled_iff]
    simp [isCompiled, fresh]
  · exact htrail.obtained_log
  · exact (htrail.accounted (accounted_fresh c)).count_log

/-- A branch grows from a trunk and has leaves. -/
def branch : Schema where
  id := ⟨"branch"⟩
  bases := [⟨"trunk"⟩]
  slots := [{ name := "leaves", valueType := .list (.model ⟨"leaf"⟩), collection := some {} }]

/-- The trunk comes after the branch, and the leaves after the first search for them. -/
def growing : List Request :=
  [.keep branch, .prototype branch.id, .keep { id := ⟨"trunk"⟩ }, .load "\x7b",
    .search (Model.empty branch.id) "leaves", .compile ⟨"trunk"⟩, .keep { id := ⟨"leaf"⟩ },
    .search (Model.empty branch.id) "leaves", .keep { branch with title := "twig" }]

/-- The failed search leaves the branch behind, and no request leaves the trunk. -/
theorem run_only_adds_growing :
    ((fresh ⟨.standard, {}⟩).run growing).store.find? branch.id = some branch ∧
    obtainedBy (fresh ⟨.standard, {}⟩) growing = [branch.id, branch.id, ⟨"leaf"⟩, branch.id] ∧
    ((fresh ⟨.standard, {}⟩).run growing).isCompiled ⟨"leaf"⟩ = true ∧
    ¬((fresh ⟨.standard, {}⟩).run growing).isCompiled ⟨"trunk"⟩ = true ∧
    (((fresh ⟨.standard, {}⟩).run growing).log.filterMap Event.compiled?).count branch.id = 1 ∧
    ∃ p, ∀ more, ((prototype branch.id).exec ((fresh ⟨.standard, {}⟩).run (growing ++ more))).1 =
      .ok p := by
  obtain ⟨hfirst, -, -, -, -, hlater, -, hcompiled, -, hcount⟩ :=
    run_only_adds ⟨.standard, {}⟩ growing
  have hobtained : obtainedBy (fresh ⟨.standard, {}⟩) growing =
      [branch.id, branch.id, ⟨"leaf"⟩, branch.id] := by with_unfolding_all rfl
  have hbranch : ((fresh ⟨.standard, {}⟩).run growing).isCompiled branch.id = true :=
    (hcompiled branch.id).mpr (by simp [hobtained])
  refine ⟨(hfirst branch.id).trans (by with_unfolding_all rfl), hobtained, ?_, ?_, ?_, ?_⟩
  · exact (hcompiled _).mpr (by simp [hobtained])
  · rw [hcompiled, hobtained]
    decide
  · rw [hcount, if_pos hbranch]
  · obtain ⟨p, hp⟩ : ∃ p, ((prototype branch.id).exec
        ((fresh ⟨.standard, {}⟩).run growing)).1 = .ok p := by with_unfolding_all exact ⟨_, rfl⟩
    exact ⟨p, fun more => hlater more branch.id p hp⟩

end Registry

end HyperSchema
