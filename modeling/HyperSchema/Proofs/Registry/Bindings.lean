import HyperSchema.Proofs.Prototype.Indexes
import HyperSchema.Proofs.Registry.Reached
import HyperSchema.Proofs.ValueSource

namespace HyperSchema

section Entries

variable {α : Type} (name : String) (a : α) (l : List (String × α))

theorem lookup_insertByName (n : String) :
    (insertByName name a l).lookup n = if n = name then some a else l.lookup n := by
  induction l with
  | nil => rw [insertByName, lookup_cons_ite]
  | cons e rest ih =>
    obtain ⟨k, b⟩ := e
    rw [insertByName]
    by_cases hlt : name < k
    · rw [if_pos hlt, lookup_cons_ite]
    · rw [if_neg hlt]
      by_cases heq : name = k
      · subst heq
        rw [if_pos rfl, lookup_cons_ite, lookup_cons_ite]
        by_cases hn : n = name <;> simp [hn]
      · rw [if_neg heq, lookup_cons_ite, lookup_cons_ite, ih]
        by_cases hn : n = k
        · simp [hn, Ne.symm heq]
        · simp [hn]

theorem map_fst_insertByName :
    (insertByName name a l).map Prod.fst = Text.insertName name (l.map Prod.fst) := by
  induction l with
  | nil => rfl
  | cons e rest ih =>
    obtain ⟨k, b⟩ := e
    rw [insertByName, List.map_cons, Text.insertName]
    by_cases hlt : name < k
    · rw [if_pos hlt, if_pos hlt]
      rfl
    · rw [if_neg hlt, if_neg hlt]
      by_cases heq : name = k
      · rw [if_pos heq, if_pos heq, List.map_cons, heq]
      · rw [if_neg heq, if_neg heq, List.map_cons, ih]

end Entries

namespace Bindings

/-- Sources by the slots that they are for, a later one in place of an earlier one. -/
def ofSources (sources : List ValueSource) : Bindings :=
  sources.foldl (fun b s => insertByName s.slot s b) []

theorem ofSources_concat (sources : List ValueSource) (s : ValueSource) :
    ofSources (sources ++ [s]) = insertByName s.slot s (ofSources sources) := by
  rw [ofSources, List.foldl_append]
  rfl

/-- Kept is the last source for a slot. -/
theorem lookup_ofSources (sources : List ValueSource) (n : String) :
    (ofSources sources).lookup n = sources.reverse.find? (·.slot = n) := by
  induction sources using List.reverseRecOn with
  | nil => rfl
  | append_singleton sources s ih =>
    rw [ofSources_concat, lookup_insertByName, ih, List.reverse_concat, List.find?_cons]
    by_cases hn : n = s.slot
    · simp [hn]
    · have hne : s.slot ≠ n := Ne.symm hn
      simp [hn, hne]

theorem names_ofSources (sources : List ValueSource) :
    (ofSources sources).map Prod.fst = Text.nameSet (sources.map (·.slot)) := by
  induction sources using List.reverseRecOn with
  | nil => rfl
  | append_singleton sources s ih =>
    rw [ofSources_concat, map_fst_insertByName, ih, List.map_append, List.map_singleton,
      Text.nameSet_concat]

/-- Every source is kept, and there are as many, exactly when no two are for one slot. -/
theorem ofSources_complete_iff (sources : List ValueSource) :
    ((∀ s ∈ sources, (ofSources sources).lookup s.slot = some s) ∧
      (ofSources sources).length = sources.length) ↔ (sources.map (·.slot)).Nodup := by
  have hlength : (ofSources sources).length = sources.length ↔ (sources.map (·.slot)).Nodup := by
    rw [← Text.length_nameSet_iff, ← names_ofSources, List.length_map, List.length_map]
  rw [hlength]
  refine ⟨And.right, fun hnodup => ⟨?_, hnodup⟩⟩
  intro s hs
  have hreverse : (sources.reverse.map (·.slot)).Nodup := by
    rwa [List.map_reverse, List.nodup_reverse]
  rw [lookup_ofSources, find?_eq_some_iff_of_nodup hreverse, List.mem_reverse]
  exact ⟨hs, rfl⟩

/-- Bindings are compiled one after the other and then put in order. -/
theorem compile_eq_ok_iff {form : TextForm} {response owner : Prototype} {link : LinkSlot}
    {b : Bindings} : compile form response owner link = .ok b ↔
      ∃ sources, List.Forall₂ (fun e s => ValueSource.compile form response e.1 owner e.2 = .ok s)
        link.bindings sources ∧ b = ofSources sources := by
  let source (e : String × SourceDeclaration) := ValueSource.compile form response e.1 owner e.2
  have hloop : compile form response owner link = .ok b ↔
      ∃ sources, link.bindings.mapM source = .ok sources ∧ b = ofSources sources :=
    foldlM_map_eq_ok_iff
  simp only [hloop, mapM_eq_ok_iff, source]

end Bindings

/-- What a declared binding of a link compiles to, for the slot of the response that it names. -/
def LinkSlot.IsSourceOf (c : Conventions) (store : Store) (owner : Prototype) (link : LinkSlot)
    (e : String × SourceDeclaration) (s : ValueSource) : Prop :=
  ∃ id response, link.response = some id ∧ (Prototype.compile c store id).outcome = .ok response ∧
    response.realName? e.1 = some s.slot ∧
    ValueSource.compile c.form response e.1 owner e.2 = .ok s

theorem LinkSlot.IsSourceOf.unique {c : Conventions} {store : Store} {owner : Prototype}
    {link : LinkSlot} {e : String × SourceDeclaration} {s t : ValueSource}
    (hs : link.IsSourceOf c store owner e s) (ht : link.IsSourceOf c store owner e t) : s = t := by
  obtain ⟨id, response, hid, hresponse, -, hs⟩ := hs
  obtain ⟨id', response', hid', hresponse', -, ht⟩ := ht
  rw [hid, Option.some.injEq] at hid'
  subst hid'
  rw [hresponse, Except.ok.injEq] at hresponse'
  subst hresponse'
  rwa [hs, Except.ok.injEq] at ht

namespace Registry
open Lineage Prototype

variable {c : Conventions} {store : Store} {r : Registry} {id : SchemaId} {p : Prototype}
  {l : LinkSlot} {b : Bindings}

/-- A link without a response has nothing to bind. -/
theorem bindings_of_response_none {lineage : List Schema}
    (hp : (Prototype.compile c store id).outcome = .ok p) (hl : IsLineage store id lineage)
    (hlink : .link l ∈ p.slots) (hnone : l.response = none) : l.bindings = [] := by
  obtain ⟨⟨declaring, d⟩, -, hc⟩ := (merged_of_compile hp hl).mem_iff.mp hlink
  cases d with
  | value d => exact (Declaration.compile_declaredBy hc).elim
  | link d =>
    obtain ⟨t, ht, hts⟩ := map_eq_ok_iff.mp (liftFailure_eq_ok_iff.mp hc)
    cases hts
    obtain ⟨-, hbound, rfl⟩ := LinkSlot.compile_eq_ok_iff.mp ht
    by_contra hne
    exact hbound hne hnone

theorem sources_of_linkBindings (hb : Uncached.linkBindings c store l = .ok b)
    (hp : Uncached.prototype c store l.base.owner = .ok p)
    (hnone : l.response = none → l.bindings = []) :
    ∃ sources, List.Forall₂ (l.IsSourceOf c store p) l.bindings sources ∧
      b = .ofSources sources := by
  unfold Uncached.linkBindings at hb
  cases hr : l.response with
  | none =>
    rw [hr] at hb
    cases hb
    exact ⟨[], hnone hr ▸ .nil, rfl⟩
  | some id =>
    simp only [hr, hp, bind_eq_ok_iff] at hb
    obtain ⟨response, hresponse, owner, howner, hb⟩ := hb
    cases howner
    obtain ⟨sources, hsources, rfl⟩ := Bindings.compile_eq_ok_iff.mp hb
    refine ⟨sources, hsources.imp ?_, rfl⟩
    intro e s hs
    exact ⟨id, response, hr, hresponse, ValueSource.realName?_of_compile hs, hs⟩

/-- A link is followed with one parameter for each binding that is kept. -/
theorem parameters_of_followLink {referrer : Model} {parameters : List (String × Option Value)}
    (hp : Uncached.prototype c store referrer.schema = .ok p)
    (hl : slotNamed? p.slots l.name = some (.link l))
    (hb : Uncached.linkBindings c store l = .ok b)
    (h : Uncached.followLink c store referrer l.name = .ok parameters) :
    List.Forall₂ (fun e v => v.1 = e.1 ∧ e.2.resolve c.form referrer = .ok v.2) b parameters := by
  have hlink : p.linkSlot l.name = .ok l := by
    rw [linkSlot, slot?_of_slotNamed? hl]
    rfl
  simp only [Uncached.followLink, hp, hlink, hb, bind_eq_ok_iff, liftFailure_eq_ok_iff,
    Except.ok.injEq, exists_eq_left', mapM_eq_ok_iff] at h
  refine h.imp ?_
  rintro e v ⟨value, hvalue, hv⟩
  cases hv
  exact ⟨rfl, liftFailure_eq_ok_iff.mp hvalue⟩

/-- Of the declared bindings that stand for one slot of the response the last is kept. So all of
them are kept, and a link is followed with as many parameters, exactly when no two stand for one
slot. -/
theorem linkBindings_complete_iff (h : Reached c store r)
    (hp : (Prototype.compile c store id).outcome = .ok p) (hl : .link l ∈ p.slots)
    (hb : ((linkBindings l).exec r).1 = .ok b) :
    ∃ sources, List.Forall₂ (l.IsSourceOf c store p) l.bindings sources ∧
      (∀ n, b.lookup n = sources.reverse.find? (·.slot = n)) ∧
      b.map Prod.fst = Text.nameSet (sources.map (·.slot)) ∧
      (((∀ e ∈ l.bindings, ∃ s, l.IsSourceOf c store p e s ∧ b.lookup s.slot = some s) ∧
        b.length = l.bindings.length) ↔ (sources.map (·.slot)).Nodup) ∧
      ∀ referrer parameters, referrer.schema = id →
        ((followLink referrer l.name).exec r).1 = .ok parameters →
          List.Forall₂ (fun e v => v.1 = e.1 ∧ e.2.resolve c.form referrer = .ok v.2)
            b parameters ∧
          (parameters.length = l.bindings.length ↔ (sources.map (·.slot)).Nodup) := by
  obtain ⟨lineage, hlineage, -⟩ := bases_of_compile hp
  have hnamed := (slotNamed?_iff_mem hp hlineage).mpr ⟨hl, rfl⟩
  rw [h.coherent.linkBindings_eq hp hnamed] at hb
  obtain ⟨sources, hsources, rfl⟩ := sources_of_linkBindings hb (prototype_of_owner hp hnamed)
    (bindings_of_response_none hp hlineage hl)
  have hlength := hsources.length_eq
  have hkept : (∀ e ∈ l.bindings, ∃ s, l.IsSourceOf c store p e s ∧
      (Bindings.ofSources sources).lookup s.slot = some s) ↔
      ∀ s ∈ sources, (Bindings.ofSources sources).lookup s.slot = some s := by
    refine forall_mem_iff_of_forall₂ ?_ hsources
    intro e s hs
    refine ⟨?_, fun hlookup => ⟨s, hs, hlookup⟩⟩
    intro ⟨t, ht, hlookup⟩
    rwa [hs.unique ht]
  refine ⟨sources, hsources, Bindings.lookup_ofSources sources, Bindings.names_ofSources sources,
    ?complete, ?parameters⟩
  case complete => rw [hkept, hlength, Bindings.ofSources_complete_iff]
  case parameters =>
    rintro referrer parameters rfl hparameters
    rw [(answers_followLink referrer l.name r h.coherent).1] at hparameters
    have hall := parameters_of_followLink hp hnamed hb hparameters
    refine ⟨hall, ?_⟩
    rw [← hall.length_eq, hlength, ← Text.length_nameSet_iff, ← Bindings.names_ofSources,
      List.length_map, List.length_map]

/-- Customers have an id, also called number. Orders lead to who has ordered and to who pays. -/
def customer : Schema where
  id := ⟨"customer"⟩
  slots := [{ name := "id", valueType := .text, aliases := ["number"] },
    { name := "name", valueType := .text }]

def order : Schema where
  id := ⟨"order"⟩
  slots := [{ name := "by", valueType := .text, aliases := ["buyer"] }]
  links := [
    { name := "owner", relation := "owner", method := .get,
      responseType := some (.model ⟨"customer"⟩),
      bindings := [("name", ⟨.referrerSlot, "buyer"⟩), ("number", ⟨.constant, "7"⟩)] },
    { name := "payer", relation := "payer", method := .get,
      responseType := some (.model ⟨"customer"⟩),
      bindings := [("id", ⟨.constant, "a"⟩), ("number", ⟨.constant, "b"⟩)] }]

def sales : Store where
  schemas := [order, customer]
  distinct := by decide

def sale : Model where
  schema := order.id
  uri := none
  slots := [("by", .text "Ann")]
  hints := {}

theorem linkBindings_complete_iff_owner : ∃ p l b,
    (Prototype.compile ⟨.standard, {}⟩ sales order.id).outcome = .ok p ∧ .link l ∈ p.slots ∧
    ((linkBindings l).exec { conventions := ⟨.standard, {}⟩, store := sales }).1 = .ok b ∧
    l.bindings.map Prod.fst = ["name", "number"] ∧ b.map Prod.fst = ["id", "name"] ∧
    (∀ e ∈ l.bindings, ∃ s, l.IsSourceOf ⟨.standard, {}⟩ sales p e s ∧
      b.lookup s.slot = some s) ∧ b.length = l.bindings.length := by
  obtain ⟨p, l, b, hp, hl, hb, hdeclared, hnames⟩ : ∃ p l b,
      (Prototype.compile ⟨.standard, {}⟩ sales order.id).outcome = .ok p ∧ .link l ∈ p.slots ∧
      ((linkBindings l).exec { conventions := ⟨.standard, {}⟩, store := sales }).1 = .ok b ∧
      l.bindings.map Prod.fst = ["name", "number"] ∧ b.map Prod.fst = ["id", "name"] := by
    with_unfolding_all exact ⟨_, _, _, rfl, .tail _ (.head _), rfl, rfl, rfl⟩
  obtain ⟨sources, hsources, -, hslots, hiff, -⟩ :=
    linkBindings_complete_iff (.start sales []) hp hl hb
  have hnodup : (sources.map (·.slot)).Nodup := by
    have htwo : l.bindings.length = 2 := by simpa using congrArg List.length hdeclared
    rw [← Text.length_nameSet_iff, ← hslots, hnames, List.length_map, ← hsources.length_eq, htwo]
    rfl
  exact ⟨p, l, b, hp, hl, hb, hdeclared, hnames, hiff.mpr hnodup⟩

/-- The payer is followed with one parameter of two: the first is lost to the other name of its
slot. -/
theorem payer_loses_binding : ∃ p l b parameters,
    (Prototype.compile ⟨.standard, {}⟩ sales order.id).outcome = .ok p ∧ .link l ∈ p.slots ∧
    ((linkBindings l).exec { conventions := ⟨.standard, {}⟩, store := sales }).1 = .ok b ∧
    ((followLink sale "payer").exec { conventions := ⟨.standard, {}⟩, store := sales }).1 =
      .ok parameters ∧
    l.bindings = [("id", ⟨.constant, "a"⟩), ("number", ⟨.constant, "b"⟩)] ∧
    b.length ≠ l.bindings.length ∧ parameters = [("id", some (.text "b"))] ∧
    ¬∀ e ∈ l.bindings, ∃ s, l.IsSourceOf ⟨.standard, {}⟩ sales p e s ∧
      b.lookup s.slot = some s := by
  obtain ⟨p, l, b, parameters, hp, hl, hb, hfollow, hdeclared, hparameters, hkept⟩ :
      ∃ p l b parameters,
      (Prototype.compile ⟨.standard, {}⟩ sales order.id).outcome = .ok p ∧ .link l ∈ p.slots ∧
      ((linkBindings l).exec { conventions := ⟨.standard, {}⟩, store := sales }).1 = .ok b ∧
      ((followLink sale "payer").exec { conventions := ⟨.standard, {}⟩, store := sales }).1 =
        .ok parameters ∧
      l.bindings = [("id", ⟨.constant, "a"⟩), ("number", ⟨.constant, "b"⟩)] ∧
      parameters = [("id", some (.text "b"))] ∧ b.map (·.2.text) = ["b"] := by
    with_unfolding_all exact ⟨_, _, _, _, rfl, .tail _ (.tail _ (.head _)), rfl, rfl, rfl, rfl, rfl⟩
  refine ⟨p, l, b, parameters, hp, hl, hb, hfollow, hdeclared, ?_, hparameters, ?_⟩
  · rw [hdeclared, ← List.length_map (f := (·.2.text)), hkept]
    decide
  · intro h
    obtain ⟨s, ⟨_, _, -, -, -, hs⟩, hlookup⟩ := h ("id", ⟨.constant, "a"⟩) (by simp [hdeclared])
    have htext : s.text = "a" := ValueSource.text_of_compile hs
    obtain ⟨before, after, rfl, -⟩ := List.lookup_eq_some_iff.mp hlookup
    have hmem : s.text ∈ (before ++ (s.slot, s) :: after).map (·.2.text) := by simp
    rw [hkept, htext] at hmem
    exact absurd hmem (by decide)

end Registry

end HyperSchema
