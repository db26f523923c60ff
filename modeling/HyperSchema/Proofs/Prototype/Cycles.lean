import HyperSchema.Proofs.Prototype.Refusals
import Mathlib.Data.List.Chain

namespace HyperSchema.Lineage

variable {store : Store}

/-- A way from a schema back to itself, on which each schema declares the next as a base. -/
structure IsCycle (store : Store) (id : SchemaId) (cycle : List SchemaId) : Prop where
  begins : cycle.head? = some id
  ends : cycle.getLast? = some id
  moves : 1 < cycle.length
  chain : cycle.IsChain (Inherits store)

theorem derives_of_isChain {a b : SchemaId} {way : List SchemaId}
    (h : (a :: way).IsChain (Inherits store)) (hb : b ∈ way) : Derives store a b := by
  have hpairwise : (a :: way).Pairwise (Derives store) :=
    (h.imp fun _ _ => Relation.TransGen.single).pairwise
  exact List.rel_of_pairwise_cons hpairwise hb

theorem IsCycle.derives {id : SchemaId} {cycle : List SchemaId} (h : IsCycle store id cycle) :
    Derives store id id := by
  obtain ⟨hbegins, hends, hmoves, hchain⟩ := h
  match cycle, hbegins with
  | [_], rfl => simp at hmoves
  | _ :: b :: rest, rfl =>
    rw [List.getLast?_cons_cons] at hends
    exact derives_of_isChain hchain (List.mem_of_getLast? hends)

theorem isChain_concat {way : List SchemaId} {b : SchemaId}
    (h : way.IsChain (Inherits store)) (hb : ∀ x ∈ way.getLast?, Inherits store x b) :
    (way ++ [b]).IsChain (Inherits store) := by
  refine h.append (List.isChain_singleton b) ?_
  intro x hx y hy
  obtain rfl : b = y := by simpa using hy
  exact hb x hx

/-- The way from `root` to where a search is, then the base that stands on it already. -/
structure Closes (store : Store) (root : SchemaId) (way : List SchemaId) (back : SchemaId) :
    Prop where
  begins : way.head? = some root
  distinct : way.Nodup
  chain : (way ++ [back]).IsChain (Inherits store)
  again : back ∈ way

/-- As long as each identifier on the path declares the next, the last one the bases still to be
visited, and none stands there twice, a cycle is reported for the root and along the path. -/
theorem visit_of_cyclic {root : SchemaId} {trail bases : List SchemaId} {found : List Schema}
    (hchain : (root :: trail).IsChain (Inherits store)) (hdistinct : (root :: trail).Nodup)
    (hbases : ∀ b ∈ bases, ∀ x ∈ (root :: trail).getLast?, Inherits store x b)
    {schema : SchemaId} {cycle : List SchemaId}
    (he : visit store root trail bases found = .error (.cyclicInheritance schema cycle)) :
    schema = root ∧ ∃ way back, cycle = way ++ [back] ∧ Closes store root way back := by
  fun_induction visit store root trail bases found with
  | case1 | case4 | case7 => cases he
  | case2 trail found b rest hp =>
    cases he
    refine ⟨rfl, root :: trail, b, rfl, ?_⟩
    exact ⟨rfl, hdistinct, isChain_concat hchain (hbases b List.mem_cons_self), hp⟩
  | case3 trail found b rest hp hf ih =>
    exact ih hchain hdistinct (fun b hb => hbases b (List.mem_cons_of_mem _ hb)) he
  | case5 trail found b rest hp hf s hs e hinner ih =>
    -- the path is longer by `b`, which declares the bases that are visited next
    cases he
    refine ih (isChain_concat hchain (hbases b List.mem_cons_self)) ?_ ?_ hinner
    · rw [← List.cons_append]
      exact List.Nodup.append hdistinct (List.nodup_singleton b) (by simpa using hp)
    · intro d hd x hx
      rw [← List.cons_append, List.getLast?_concat, Option.mem_some_iff] at hx
      exact ⟨s, hx ▸ hs, hd⟩
  | case6 trail found b rest hp hf s hs inner hi hinner e hrest ihInner ihRest =>
    cases he
    exact ihRest hchain hdistinct (fun b hb => hbases b (List.mem_cons_of_mem _ hb)) hrest

theorem bases_of_cyclic {s : Schema} (hs : store.find? s.id = some s) {schema : SchemaId}
    {cycle : List SchemaId} (h : bases store s = .error (.cyclicInheritance schema cycle)) :
    schema = s.id ∧ ∃ way back, cycle = way ++ [back] ∧ Closes store s.id way back := by
  cases hv : visit store s.id [] s.bases [] with
  | ok r => simp [bases, hv, Except.map] at h
  | error e =>
    obtain rfl : e = .cyclicInheritance schema cycle := by simpa [bases, hv, Except.map] using h
    refine visit_of_cyclic (List.isChain_singleton s.id) (List.nodup_singleton s.id) ?_ hv
    intro b hb x hx
    obtain rfl : s.id = x := by simpa using hx
    exact ⟨s, hs, hb⟩

/-- A way that closes has a cycle as its end. -/
theorem Closes.exists_cycle {root back : SchemaId} {way : List SchemaId}
    (h : Closes store root way back) : ∃ stem loop, way = stem ++ back :: loop ∧
      IsCycle store back (back :: (loop ++ [back])) := by
  obtain ⟨stem, loop, rfl⟩ := List.append_of_mem h.again
  have hchain := h.chain
  rw [List.append_assoc, List.cons_append] at hchain
  refine ⟨stem, loop, rfl, ?_⟩
  exact {
    begins := rfl
    ends := by rw [← List.cons_append, List.getLast?_concat]
    moves := by rw [List.length_cons, List.length_append, List.length_singleton]; omega
    chain := hchain.right_of_append }

theorem Closes.isCycle_iff {root back : SchemaId} {way : List SchemaId}
    (h : Closes store root way back) : IsCycle store root (way ++ [back]) ↔ back = root := by
  refine ⟨?_, ?_⟩
  · intro hcycle
    simpa using hcycle.ends
  · rintro rfl
    have hlength := List.length_pos_of_mem h.again
    exact {
      begins := by rw [List.head?_append, h.begins]; rfl
      ends := List.getLast?_concat
      moves := by rw [List.length_append, List.length_singleton]; omega
      chain := h.chain }

end HyperSchema.Lineage

namespace HyperSchema.Prototype
open Lineage

/-- A cycle is reported for the schema that is compiled, along a way that begins with it, goes down
the declared bases and ends in a cycle. The way is itself a cycle of the schema exactly when it
leads back to it, and not to a schema further down. -/
theorem cycle_real_iff {c : Conventions} {store : Store} {id schema : SchemaId}
    {cycle : List SchemaId}
    (h : (compile c store id).outcome = .error (.compile (.cyclicInheritance schema cycle))) :
    schema = id ∧ ∃ stem back loop, cycle = stem ++ back :: (loop ++ [back]) ∧
      cycle.head? = some schema ∧ cycle.getLast? = some back ∧ (stem ++ back :: loop).Nodup ∧
      cycle.IsChain (Inherits store) ∧ IsCycle store back (back :: (loop ++ [back])) ∧
      (IsCycle store schema cycle ↔ back = schema) := by
  cases hs : store.find? id with
  | none =>
    rw [compile_of_not_kept hs] at h
    cases h
  | some s =>
    obtain ⟨-, rfl⟩ := Store.mem_of_find? hs
    cases hb : Lineage.bases store s with
    | ok bases =>
      rw [compile_of_bases_ok hs hb] at h
      obtain ⟨x, hx, hlineage⟩ | ⟨x, hx⟩ := assemble_refuses s bases _ h
      · cases hx
        exact absurd trivial hlineage
      · cases hx
    | error e =>
      rw [compile_of_bases_error hs hb] at h
      cases h
      obtain ⟨rfl, way, back, rfl, hcloses⟩ := bases_of_cyclic hs hb
      obtain ⟨stem, loop, rfl, hcycle⟩ := hcloses.exists_cycle
      refine ⟨rfl, stem, back, loop, by simp, ?_, List.getLast?_concat, hcloses.distinct,
        hcloses.chain, hcycle, hcloses.isCycle_iff⟩
      rw [List.head?_append, hcloses.begins]
      rfl

/-- A task is a stage, and stages and phases derive from each other. -/
def plans : Store where
  schemas := [
    { id := ⟨"task"⟩, bases := [⟨"stage"⟩] },
    { id := ⟨"stage"⟩, bases := [⟨"phase"⟩] },
    { id := ⟨"phase"⟩, bases := [⟨"stage"⟩] }]
  distinct := by decide

theorem cycle_real_iff_stage :
    (compile ⟨.standard, {}⟩ plans ⟨"stage"⟩).outcome =
      .error (.compile (.cyclicInheritance ⟨"stage"⟩ [⟨"stage"⟩, ⟨"phase"⟩, ⟨"stage"⟩])) ∧
    IsCycle plans ⟨"stage"⟩ [⟨"stage"⟩, ⟨"phase"⟩, ⟨"stage"⟩] ∧
    (compile ⟨.standard, {}⟩ plans ⟨"task"⟩).outcome =
      .error (.compile (.cyclicInheritance ⟨"task"⟩
        [⟨"task"⟩, ⟨"stage"⟩, ⟨"phase"⟩, ⟨"stage"⟩])) ∧
    ¬IsCycle plans ⟨"task"⟩ [⟨"task"⟩, ⟨"stage"⟩, ⟨"phase"⟩, ⟨"stage"⟩] := by
  have hstage : (compile ⟨.standard, {}⟩ plans ⟨"stage"⟩).outcome =
    .error (.compile (.cyclicInheritance ⟨"stage"⟩ [⟨"stage"⟩, ⟨"phase"⟩, ⟨"stage"⟩])) := by
    with_unfolding_all rfl
  have htask : (compile ⟨.standard, {}⟩ plans ⟨"task"⟩).outcome =
    .error (.compile (.cyclicInheritance ⟨"task"⟩
      [⟨"task"⟩, ⟨"stage"⟩, ⟨"phase"⟩, ⟨"stage"⟩])) := by with_unfolding_all rfl
  obtain ⟨-, _, back, _, -, -, hlast, -, -, -, hreal⟩ := cycle_real_iff hstage
  obtain ⟨-, _, back', _, -, -, hlast', -, -, -, hreal'⟩ := cycle_real_iff htask
  obtain rfl : ⟨"stage"⟩ = back := Option.some.inj hlast
  obtain rfl : ⟨"stage"⟩ = back' := Option.some.inj hlast'
  exact ⟨hstage, hreal.mpr rfl, htask, fun h => absurd (hreal'.mp h) (by decide)⟩

/-- A task does not derive from itself, yet the cycle of its base is reported as one of its own. -/
theorem cycle_below_is_misnamed :
    (compile ⟨.standard, {}⟩ plans ⟨"task"⟩).outcome =
      .error (.compile (.cyclicInheritance ⟨"task"⟩
        [⟨"task"⟩, ⟨"stage"⟩, ⟨"phase"⟩, ⟨"stage"⟩])) ∧
    ¬Derives plans ⟨"task"⟩ ⟨"task"⟩ ∧
    ¬IsCycle plans ⟨"task"⟩ [⟨"task"⟩, ⟨"stage"⟩, ⟨"phase"⟩, ⟨"stage"⟩] := by
  have hbase : ∀ s ∈ plans.schemas, (⟨"task"⟩ : SchemaId) ∉ s.bases := by decide
  have hderives : ¬Derives plans ⟨"task"⟩ ⟨"task"⟩ := by
    intro h
    obtain ⟨b, -, s, hs, hb⟩ := Relation.TransGen.tail'_iff.mp h
    exact hbase s (Store.mem_of_find? hs).1 hb
  exact ⟨by with_unfolding_all rfl, hderives, fun h => hderives h.derives⟩

end HyperSchema.Prototype
