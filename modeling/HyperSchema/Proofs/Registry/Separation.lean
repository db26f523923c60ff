import HyperSchema.Proofs.Hints
import HyperSchema.Proofs.Registry.Search

namespace HyperSchema

/-- The parameters that a collection declares criteria for. -/
def CollectionSlot.parameters (s : CollectionSlot) : List String :=
  ((s.and ++ s.or).filter (·.source.kind = .queryParameter)).map (·.source.text)

def SearchRequest.criteria (request : SearchRequest) : List Criterion × List Criterion :=
  (request.and, request.or)

/-- Two searches by one collection differ in their criteria, or fail to be bound, only when the
referrers differ in a parameter of the collection. They differ in what is asked of the documents
only when the referrers differ in what they ask under the collection. -/
structure SearchRequest.Separated (s : CollectionSlot) (m m' : Model)
    (x y : Except Failure SearchRequest) : Prop where
  criteria : (∀ k ∈ s.parameters, m.hints.queryParameter? k = m'.hints.queryParameter? k) →
    x.map criteria = y.map criteria
  nested : m.hints.under s.name = m'.hints.under s.name →
    ∀ request request', x = .ok request → y = .ok request' →
      request.hints = request'.hints ∧ request.projection = request'.projection

namespace Uncached

variable {c : Conventions} {store : Store} {s : CollectionSlot} {p reference : Prototype}
  {plan : SearchPlan} {m m' : Model}

/-- What the criteria of a plan are bound to for a referrer. -/
def boundCriteria (c : Conventions) (plan : SearchPlan) (referrer : Model) :
    Except Failure (List Criterion × List Criterion) := do
  let and ← plan.and.mapM (bindCriterion c referrer)
  let or ← plan.or.mapM (bindCriterion c referrer)
  pure (and, or)

/-- Whatever the hints, the slots to fetch are found once there is a plan. -/
theorem exists_projection (hplan : searchPlan c store s = .ok plan) (hints : Hints) :
    ∃ names, projection c store plan hints = .ok names := by
  simp only [searchPlan, SearchPlan.compile, bind_eq_ok_iff] at hplan
  obtain ⟨reference, hreference, p, -, and, -, or, -, h⟩ := hplan
  cases h
  unfold projection
  split
  · exact ⟨_, rfl⟩
  · split
    · simp only [hreference]
      exact ⟨_, rfl⟩
    · exact ⟨_, rfl⟩

/-- Planning and binding are all that a search can fail in. -/
theorem map_criteria_buildSearch (c : Conventions) (store : Store) (s : CollectionSlot)
    (m : Model) : (buildSearch c store s m).map SearchRequest.criteria =
      searchPlan c store s >>= fun plan => boundCriteria c plan m := by
  unfold buildSearch boundCriteria
  -- one after the other in the order in which they are done, the first failure ends both sides
  cases hplan : searchPlan c store s with
  | error e => rfl
  | ok plan =>
    dsimp only [bind, Except.bind]
    cases plan.and.mapM (bindCriterion c m) with
    | error e => rfl
    | ok and =>
      cases plan.or.mapM (bindCriterion c m) with
      | error e => rfl
      | ok or =>
        obtain ⟨names, hnames⟩ := exists_projection hplan (m.hints.nested s.name)
        simp only [hnames]
        rfl

/-- What a planned criterion is bound to depends on a parameter at most, the one that it is declared
for. -/
theorem bindCriterion_congr {d : CriterionDeclaration} {planned : PlannedCriterion}
    (hplanned : PlannedCriterion.compile c.form reference p d = .ok planned)
    (hslots : ∀ n, m.slotValue? n = m'.slotValue? n)
    (hparameter : d.source.kind = .queryParameter →
      m.hints.queryParameter? d.source.text = m'.hints.queryParameter? d.source.text) :
    bindCriterion c m planned = bindCriterion c m' planned := by
  -- planning keeps the kind and the text of the source
  have hsource := (PlannedCriterion.compile_eq_ok_iff.mp hplanned).source
  rw [← ValueSource.kind_of_compile hsource, ← ValueSource.text_of_compile hsource] at hparameter
  rw [bindCriterion, bindCriterion, resolve, resolve, ValueSource.resolve_congr hslots hparameter]

theorem mapM_bindCriterion_congr {ds : List CriterionDeclaration} {planned : List PlannedCriterion}
    (hplanned : ds.mapM (PlannedCriterion.compile c.form reference p) = .ok planned)
    (hslots : ∀ n, m.slotValue? n = m'.slotValue? n)
    (hparameters : ∀ d ∈ ds, d.source.kind = .queryParameter →
      m.hints.queryParameter? d.source.text = m'.hints.queryParameter? d.source.text) :
    planned.mapM (bindCriterion c m) = planned.mapM (bindCriterion c m') := by
  refine mapM_congr fun x hx => ?_
  obtain ⟨d, hd, hcompiled⟩ := exists_mem_of_forall₂ (mapM_eq_ok_iff.mp hplanned) hx
  exact bindCriterion_congr hcompiled hslots (hparameters d hd)

theorem boundCriteria_congr (hp : prototype c store s.base.owner = .ok p)
    (hplan : searchPlan c store s = .ok plan) (hslots : ∀ n, m.slotValue? n = m'.slotValue? n)
    (hparameters : ∀ k ∈ s.parameters, m.hints.queryParameter? k = m'.hints.queryParameter? k) :
    boundCriteria c plan m = boundCriteria c plan m' := by
  obtain ⟨reference, -, hand, hor, -⟩ := Registry.plan_of_searchPlan hplan hp
  have hdeclared : ∀ d ∈ s.and ++ s.or, d.source.kind = .queryParameter →
      m.hints.queryParameter? d.source.text = m'.hints.queryParameter? d.source.text := by
    intro d hd hkind
    apply hparameters
    exact List.mem_map_of_mem (List.mem_filter.mpr ⟨hd, decide_eq_true hkind⟩)
  obtain ⟨hdand, hdor⟩ := List.forall_mem_append.mp hdeclared
  rw [boundCriteria, boundCriteria, mapM_bindCriterion_congr hand hslots hdand,
    mapM_bindCriterion_congr hor hslots hdor]

/-- What is asked of the documents is read off the nested hints. -/
theorem nested_of_buildSearch {request : SearchRequest}
    (h : buildSearch c store s m = .ok request) : request.hints = m.hints.nested s.name ∧
      ∃ plan, searchPlan c store s = .ok plan ∧
        projection c store plan (m.hints.nested s.name) = .ok request.projection := by
  simp only [buildSearch, bind_eq_ok_iff] at h
  obtain ⟨plan, hplan, and, -, or, -, names, hnames, h⟩ := h
  cases h
  exact ⟨rfl, plan, hplan, hnames⟩

theorem buildSearch_separated (hp : prototype c store s.base.owner = .ok p)
    (hslots : ∀ n, m.slotValue? n = m'.slotValue? n) :
    SearchRequest.Separated s m m' (buildSearch c store s m) (buildSearch c store s m') := by
  refine ⟨?_, ?_⟩
  · intro hparameters
    rw [map_criteria_buildSearch, map_criteria_buildSearch]
    cases hplan : searchPlan c store s with
    | error e => rfl
    | ok plan => exact boundCriteria_congr hp hplan hslots hparameters
  · intro hunder request request' hrequest hrequest'
    obtain ⟨hhints, plan, hplan, hnames⟩ := nested_of_buildSearch hrequest
    obtain ⟨hhints', plan', hplan', hnames'⟩ := nested_of_buildSearch hrequest'
    have hnested : m.hints.nested s.name = m'.hints.nested s.name := by
      rw [← Hints.nested_under, hunder, Hints.nested_under]
    rw [hplan, Except.ok.injEq] at hplan'
    rw [hnested, hplan', hnames', Except.ok.injEq] at hnames
    exact ⟨by rw [hhints, hhints', hnested], hnames.symm⟩

end Uncached

namespace Registry
open Prototype

/-- Searches by one collection for referrers with the same slots, each in any registry over the same
schemas and by any name of the collection, differ only as far as the hints that they are for. -/
theorem search_separated {c : Conventions} {store : Store} {r r' : Registry} {id : SchemaId}
    {p : Prototype} {s : CollectionSlot} {m m' : Model} (h : Reached c store r)
    (h' : Reached c store r') (hp : (Prototype.compile c store id).outcome = .ok p)
    (hs : .collection s ∈ p.slots) (hslots : ∀ n, m.slotValue? n = m'.slotValue? n) :
    SearchRequest.Separated s m m' ((buildSearch s m).exec r).1 ((buildSearch s m').exec r').1 ∧
      ∀ n, p.slot? n = some (.collection s) → m.schema = id → m'.schema = id →
        SearchRequest.Separated s m m' ((search m n).exec r).1 ((search m' n).exec r').1 := by
  obtain ⟨lineage, hl, -⟩ := bases_of_compile hp
  have hnamed := (slotNamed?_iff_mem hp hl).mpr ⟨hs, rfl⟩
  have hseparated := Uncached.buildSearch_separated (prototype_of_owner hp hnamed) hslots
  refine ⟨?_, ?_⟩
  · rwa [h.coherent.buildSearch_eq hp hnamed, h'.coherent.buildSearch_eq hp hnamed]
  · intro n hn hm hm'
    have hsearch (x : Model) (hx : x.schema = id) :
        Uncached.search c store x n = Uncached.buildSearch c store s x := by
      have hprototype : Uncached.prototype c store x.schema = .ok p := hx ▸ hp
      have hslot : p.collectionSlot n = .ok s := by rw [collectionSlot, hn]; rfl
      simp only [Uncached.search, hprototype]
      dsimp only [bind, Except.bind]
      rw [hslot]
      rfl
    rwa [(answers_search m n r h.coherent).1, (answers_search m' n r' h'.coherent).1, hsearch m hm,
      hsearch m' hm']

/-- The same seminar asked for at some level, with a topic and titles of its lessons. -/
def leveled : Model where
  schema := seminar.id
  uri := some "/seminars/logic"
  slots := [("topic", .text "logic")]
  hints := {
    includedSlotNames := ["topic", "lessons.title", "lessonsLeft.title"]
    queryParameters := [("level", "2")] }

/-- The same seminar without what is not in lessons of some level. -/
def narrowed : Model where
  schema := seminar.id
  uri := none
  slots := [("topic", .text "logic")]
  hints := {
    excludedSlotNames := ["lessons.title"]
    queryParameters := [("lessons.level", "2")]
    locale := some "de" }

theorem search_separated_logic : ∃ p s request request' request'',
    (Prototype.compile atMostTwenty campus seminar.id).outcome = .ok p ∧
    .collection s ∈ p.slots ∧ s.parameters = ["level"] ∧
    ((buildSearch s logic).exec searchedOnce).1 = .ok request ∧
    ((buildSearch s leveled).exec { conventions := atMostTwenty, store := campus }).1 =
      .ok request' ∧
    ((buildSearch s narrowed).exec searchedOnce).1 = .ok request'' ∧
    (request.or.map (·.value) = [some (.long 1), none] ∧
      request'.or.map (·.value) = [some (.long 1), some (.long 2)]) ∧
    (request.projection = ["title"] ∧ request''.projection = ["level"]) ∧
    (request.hints = request'.hints ∧ request.projection = request'.projection) ∧
    request.criteria = request''.criteria := by
  obtain ⟨p, s, request, request', request'', hp, hs, hname, hparameters, hrequest, hrequest',
    hrequest'', hvalues, hnames⟩ : ∃ p s request request' request'',
      (Prototype.compile atMostTwenty campus seminar.id).outcome = .ok p ∧
      .collection s ∈ p.slots ∧ s.name = "lessons" ∧ s.parameters = ["level"] ∧
      ((buildSearch s logic).exec searchedOnce).1 = .ok request ∧
      ((buildSearch s leveled).exec { conventions := atMostTwenty, store := campus }).1 =
        .ok request' ∧
      ((buildSearch s narrowed).exec searchedOnce).1 = .ok request'' ∧
      (request.or.map (·.value) = [some (.long 1), none] ∧
        request'.or.map (·.value) = [some (.long 1), some (.long 2)]) ∧
      (request.projection = ["title"] ∧ request''.projection = ["level"]) := by
    with_unfolding_all exact ⟨_, _, _, _, _, rfl, .tail _ (.head _), rfl, rfl, rfl, rfl, rfl,
      ⟨rfl, rfl⟩, rfl, rfl⟩
  have hreached : Reached atMostTwenty campus searchedOnce :=
    .step (.start campus []) (.search logic "lessons")
  have hfresh : Reached atMostTwenty campus { conventions := atMostTwenty, store := campus } :=
    .start campus []
  have hsame : ∀ n, logic.slotValue? n = leveled.slotValue? n := fun _ => rfl
  have hsame' : ∀ n, logic.slotValue? n = narrowed.slotValue? n := fun _ => rfl
  obtain ⟨hleveled, -⟩ := search_separated hreached hfresh hp hs hsame
  obtain ⟨hnarrowed, -⟩ := search_separated hreached hreached hp hs hsame'
  have hunder : logic.hints.under s.name = leveled.hints.under s.name := by rw [hname]; decide
  have hagree : ∀ k ∈ s.parameters,
      logic.hints.queryParameter? k = narrowed.hints.queryParameter? k := by
    rw [hparameters]
    decide
  have hcriteria := hnarrowed.criteria hagree
  rw [hrequest, hrequest''] at hcriteria
  exact ⟨p, s, request, request', request'', hp, hs, hparameters, hrequest, hrequest', hrequest'',
    hvalues, hnames, hleveled.nested hunder request request' hrequest hrequest',
    Except.ok.inj hcriteria⟩

end Registry

end HyperSchema
