import HyperSchema.Proofs.Registry.Separation

namespace HyperSchema

/-- The text that a source supplies for a referrer. Slots of the referrer supply values. -/
def SourceDeclaration.text? (d : SourceDeclaration) (m : Model) : Option String :=
  match d.kind with
  | .referrerSlot => none
  | .queryParameter => m.hints.queryParameter? d.text
  | .constant => some d.text

/-- The text supplied, if any, is written as a value of the slot that it is meant for. -/
def SourceDeclaration.IsReadable (form : TextForm) (reference : Prototype) (slot : String)
    (d : SourceDeclaration) (m : Model) : Prop :=
  ∀ raw, d.text? m = some raw →
    ∃ s v, reference.slot? slot = some s ∧ coerce form raw s.valueType = .ok v

namespace CollectionSlot

/-- The parameters that are declared for values to compare with. -/
def comparedParameters (s : CollectionSlot) : List String :=
  ((s.and ++ s.or).filter fun d => d.operator.needsValue ∧ d.source.kind = .queryParameter).map
    (·.source.text)

/-- Whatever a criterion that compares nothing is supplied with can be read. -/
def ReadsExistence (form : TextForm) (reference : Prototype) (s : CollectionSlot) (m : Model) :
    Prop :=
  ∀ d ∈ s.and ++ s.or, d.operator.needsValue = false →
    d.source.IsReadable form reference d.referenceSlot m

end CollectionSlot

def comparedCriteria (criteria : List Criterion) : List Criterion :=
  criteria.filter (·.operator.needsValue)

/-- The criteria with a value to compare with. -/
def SearchRequest.compared (request : SearchRequest) : List Criterion × List Criterion :=
  (comparedCriteria request.and, comparedCriteria request.or)

/-- A source is resolved exactly for the referrers for which what it supplies can be read. -/
theorem ValueSource.exists_resolve_iff {form : TextForm} {reference p : Prototype} {slot : String}
    {d : SourceDeclaration} {source : ValueSource}
    (h : compile form reference slot p d = .ok source) (m : Model) :
    (∃ v, source.resolve form m = .ok v) ↔ d.IsReadable form reference slot m := by
  obtain ⟨s, origin, hs, horigin, rfl⟩ := compile_eq_ok_iff.mp h
  rw [SourceDeclaration.IsReadable, SourceDeclaration.text?]
  unfold compileOrigin at horigin
  cases hkind : d.kind with
  | referrerSlot =>
    simp only [hkind, liftFailure_eq_ok_iff, compilePath_eq_ok_iff] at horigin
    obtain ⟨first, rest, real, -, -, -, rfl⟩ := horigin
    exact iff_of_true ⟨_, rfl⟩ nofun
  | queryParameter =>
    rw [hkind] at horigin
    cases horigin
    dsimp only [resolve]
    cases m.hints.queryParameter? d.text with
    | none => exact iff_of_true ⟨_, rfl⟩ nofun
    | some raw => simp [map_eq_ok_iff, hs]
  | constant =>
    simp only [hkind, liftFailure_eq_ok_iff, map_eq_ok_iff] at horigin
    obtain ⟨v, hv, rfl⟩ := horigin
    refine iff_of_true ⟨_, rfl⟩ fun raw hraw => ⟨s, v, hs, ?_⟩
    rwa [← Option.some.inj hraw]

namespace Uncached

variable {c : Conventions} {store : Store} {s : CollectionSlot} {p reference : Prototype}
  {plan : SearchPlan} {m m' : Model} {d : CriterionDeclaration} {planned : PlannedCriterion}
  {request request' : SearchRequest}

/-- A criterion that compares nothing fails only in what it is supplied with. -/
theorem exists_bindCriterion_iff
    (h : PlannedCriterion.compile c.form reference p d = .ok planned)
    (hneeds : d.operator.needsValue = false) (m : Model) :
    (∃ criterion, bindCriterion c m planned = .ok criterion) ↔
      d.source.IsReadable c.form reference d.referenceSlot m := by
  have hd := PlannedCriterion.compile_eq_ok_iff.mp h
  have hregex (value : Option Value) : planned.regexFor c.form value = .ok none := by
    unfold PlannedCriterion.regexFor
    split
    next hop => rw [← hd.operator, hop] at hneeds; cases hneeds
    next => rfl
  rw [← ValueSource.exists_resolve_iff hd.source]
  simp only [bindCriterion, resolve, PlannedCriterion.withValue, hregex, bind_eq_ok_iff,
    liftFailure_eq_ok_iff, map_eq_ok_iff]
  refine ⟨?_, ?_⟩
  · rintro ⟨_, v, hv, -⟩
    exact ⟨v, hv⟩
  · rintro ⟨v, hv⟩
    exact ⟨_, v, hv, none, rfl, rfl⟩

/-- All criteria of a plan are bound, or the search is not made. -/
theorem exists_buildSearch_iff (m : Model) : (∃ request, buildSearch c store s m = .ok request) ↔
    ∃ plan, searchPlan c store s = .ok plan ∧
      ∀ x ∈ plan.and ++ plan.or, ∃ criterion, bindCriterion c m x = .ok criterion := by
  simp only [List.forall_mem_append, ← exists_mapM_eq_ok_iff, buildSearch, bind_eq_ok_iff]
  refine ⟨?_, ?_⟩
  · rintro ⟨_, plan, hplan, and, hand, or, hor, -⟩
    exact ⟨plan, hplan, ⟨and, hand⟩, or, hor⟩
  · rintro ⟨plan, hplan, ⟨and, hand⟩, or, hor⟩
    obtain ⟨names, hnames⟩ := exists_projection hplan (m.hints.nested s.name)
    exact ⟨_, plan, hplan, and, hand, or, hor, names, hnames, rfl⟩

/-- The criteria of a plan come from those declared, in the same order. -/
theorem forall₂_of_searchPlan (hp : prototype c store s.base.owner = .ok p)
    (hplan : searchPlan c store s = .ok plan) :
    ∃ reference, prototype c store s.reference = .ok reference ∧
      List.Forall₂ (fun d x => PlannedCriterion.compile c.form reference p d = .ok x)
        (s.and ++ s.or) (plan.and ++ plan.or) := by
  obtain ⟨reference, hreference, hand, hor, -⟩ := Registry.plan_of_searchPlan hplan hp
  exact ⟨reference, hreference,
    List.rel_append (mapM_eq_ok_iff.mp hand) (mapM_eq_ok_iff.mp hor)⟩

/-- A criterion with a value to compare with is bound alike, be it without success, for referrers
that agree on slots and on the parameters declared for such values. -/
theorem bindCriterion_compared_congr (hp : prototype c store s.base.owner = .ok p)
    (hplan : searchPlan c store s = .ok plan) (hslots : ∀ n, m.slotValue? n = m'.slotValue? n)
    (hcompared : ∀ k ∈ s.comparedParameters,
      m.hints.queryParameter? k = m'.hints.queryParameter? k) :
    ∀ x ∈ plan.and ++ plan.or, x.operator.needsValue →
      bindCriterion c m x = bindCriterion c m' x := by
  obtain ⟨reference, -, hplanned⟩ := forall₂_of_searchPlan hp hplan
  intro x hx hneeds
  obtain ⟨d, hd, hcompiled⟩ := exists_mem_of_forall₂ hplanned hx
  refine bindCriterion_congr hcompiled hslots fun hkind => hcompared _ ?_
  rw [(PlannedCriterion.compile_eq_ok_iff.mp hcompiled).operator] at hneeds
  exact List.mem_map_of_mem (List.mem_filter.mpr ⟨hd, decide_eq_true ⟨hneeds, hkind⟩⟩)

/-- The criteria with a value to compare with are bound by themselves. -/
theorem compared_of_buildSearch (hplan : searchPlan c store s = .ok plan)
    (h : buildSearch c store s m = .ok request) :
    (plan.and.filter (·.operator.needsValue)).mapM (bindCriterion c m) =
        .ok (comparedCriteria request.and) ∧
      (plan.or.filter (·.operator.needsValue)).mapM (bindCriterion c m) =
        .ok (comparedCriteria request.or) := by
  have hoperator (x : PlannedCriterion) (e : Criterion) (he : bindCriterion c m x = .ok e) :
      x.operator.needsValue = e.operator.needsValue := by
    simp only [bindCriterion, PlannedCriterion.withValue, bind_eq_ok_iff, map_eq_ok_iff] at he
    obtain ⟨value, -, regex, -, rfl⟩ := he
    rfl
  simp only [buildSearch, hplan, bind_eq_ok_iff, Except.ok.injEq, exists_eq_left'] at h
  obtain ⟨and, hand, or, hor, names, -, h⟩ := h
  cases h
  exact ⟨mapM_filter_eq_ok hoperator hand, mapM_filter_eq_ok hoperator hor⟩

theorem compared_congr (hp : prototype c store s.base.owner = .ok p)
    (hslots : ∀ n, m.slotValue? n = m'.slotValue? n)
    (hcompared : ∀ k ∈ s.comparedParameters,
      m.hints.queryParameter? k = m'.hints.queryParameter? k)
    (h : buildSearch c store s m = .ok request) (h' : buildSearch c store s m' = .ok request') :
    request.compared = request'.compared := by
  obtain ⟨plan, hplan, -⟩ := (exists_buildSearch_iff m).mp ⟨request, h⟩
  obtain ⟨hand, hor⟩ := compared_of_buildSearch hplan h
  obtain ⟨hand', hor'⟩ := compared_of_buildSearch hplan h'
  have hsame := bindCriterion_compared_congr hp hplan hslots hcompared
  have hands : comparedCriteria request.and = comparedCriteria request'.and := by
    refine Except.ok.inj (hand.symm.trans ((mapM_congr fun x hx => ?_).trans hand'))
    obtain ⟨hx, hneeds⟩ := List.mem_filter.mp hx
    exact hsame x (List.mem_append_left _ hx) hneeds
  have hors : comparedCriteria request.or = comparedCriteria request'.or := by
    refine Except.ok.inj (hor.symm.trans ((mapM_congr fun x hx => ?_).trans hor'))
    obtain ⟨hx, hneeds⟩ := List.mem_filter.mp hx
    exact hsame x (List.mem_append_right _ hx) hneeds
  rw [SearchRequest.compared, SearchRequest.compared, hands, hors]

/-- Once there is a search for one referrer, there is one for another exactly when what the criteria
that compare nothing are supplied with can be read for the other. -/
theorem exists_buildSearch_congr (hp : prototype c store s.base.owner = .ok p)
    (hslots : ∀ n, m.slotValue? n = m'.slotValue? n)
    (hcompared : ∀ k ∈ s.comparedParameters,
      m.hints.queryParameter? k = m'.hints.queryParameter? k)
    (h : ∃ request, buildSearch c store s m = .ok request) :
    ∃ reference, prototype c store s.reference = .ok reference ∧
      s.ReadsExistence c.form reference m ∧
      ((∃ request', buildSearch c store s m' = .ok request') ↔
        s.ReadsExistence c.form reference m') := by
  obtain ⟨plan, hplan, hbound⟩ := (exists_buildSearch_iff m).mp h
  obtain ⟨reference, hreference, hcompiled⟩ := forall₂_of_searchPlan hp hplan
  have hsame := bindCriterion_compared_congr hp hplan hslots hcompared
  have hreads (x : Model) : s.ReadsExistence c.form reference x ↔
      ∀ y ∈ plan.and ++ plan.or, y.operator.needsValue = false →
        ∃ criterion, bindCriterion c x y = .ok criterion := by
    refine forall_mem_iff_of_forall₂ (fun d y hy => ?_) hcompiled
    rw [(PlannedCriterion.compile_eq_ok_iff.mp hy).operator]
    exact imp_congr_right fun hneeds => (exists_bindCriterion_iff hy hneeds x).symm
  refine ⟨reference, hreference, (hreads m).mpr fun y hy _ => hbound y hy, ?_⟩
  rw [hreads, exists_buildSearch_iff]
  simp only [hplan, Except.ok.injEq, exists_eq_left']
  refine ⟨fun hall y hy _ => hall y hy, fun hnone y hy => ?_⟩
  cases hneeds : y.operator.needsValue with
  | false => exact hnone y hy hneeds
  | true =>
    rw [← hsame y hy hneeds]
    exact hbound y hy

theorem exists_buildSearch_of_imp (hp : prototype c store s.base.owner = .ok p)
    (hreference : prototype c store s.reference = .ok reference)
    (hslots : ∀ n, m.slotValue? n = m'.slotValue? n)
    (hcompared : ∀ k ∈ s.comparedParameters,
      m.hints.queryParameter? k = m'.hints.queryParameter? k)
    (hreads : s.ReadsExistence c.form reference m → s.ReadsExistence c.form reference m')
    (h : ∃ request, buildSearch c store s m = .ok request) :
    ∃ request', buildSearch c store s m' = .ok request' := by
  obtain ⟨reference', hreference', hm, hm'⟩ := exists_buildSearch_congr hp hslots hcompared h
  obtain rfl : reference = reference' := Except.ok.inj (hreference.symm.trans hreference')
  exact hm'.mpr (hreads hm)

end Uncached

namespace Registry
open Prototype

/-- Two referrers with the same slots and the same parameters for values to compare with, each in
any registry over the same schemas. Searches by a collection compare the same with the same values.
Once there is one for the first, there is one for the second unless the second supplies a criterion
that compares nothing with what cannot be read. -/
theorem existence_read_iff {c : Conventions} {store : Store} {r r' : Registry} {id : SchemaId}
    {p : Prototype} {s : CollectionSlot} {m m' : Model} (h : Reached c store r)
    (h' : Reached c store r') (hp : (Prototype.compile c store id).outcome = .ok p)
    (hs : .collection s ∈ p.slots) (hslots : ∀ n, m.slotValue? n = m'.slotValue? n)
    (hcompared : ∀ k ∈ s.comparedParameters,
      m.hints.queryParameter? k = m'.hints.queryParameter? k) :
    (∀ request, ((buildSearch s m).exec r).1 = .ok request →
      ∃ reference, (Prototype.compile c store s.reference).outcome = .ok reference ∧
        s.ReadsExistence c.form reference m ∧
        ((∃ request', ((buildSearch s m').exec r').1 = .ok request') ↔
          s.ReadsExistence c.form reference m') ∧
        ∀ request', ((buildSearch s m').exec r').1 = .ok request' →
          request.compared = request'.compared) ∧
      ∀ reference, (Prototype.compile c store s.reference).outcome = .ok reference →
        (s.ReadsExistence c.form reference m ↔ s.ReadsExistence c.form reference m') →
          ((∃ request, ((buildSearch s m).exec r).1 = .ok request) ↔
            ∃ request', ((buildSearch s m').exec r').1 = .ok request') := by
  obtain ⟨lineage, hl, -⟩ := bases_of_compile hp
  have hnamed := (slotNamed?_iff_mem hp hl).mpr ⟨hs, rfl⟩
  have howner := prototype_of_owner hp hnamed
  rw [h.coherent.buildSearch_eq hp hnamed, h'.coherent.buildSearch_eq hp hnamed]
  refine ⟨?_, ?_⟩
  · intro request hrequest
    obtain ⟨reference, hreference, hreads, hbuilt⟩ :=
      Uncached.exists_buildSearch_congr howner hslots hcompared ⟨request, hrequest⟩
    exact ⟨reference, hreference, hreads, hbuilt, fun request' hrequest' =>
      Uncached.compared_congr howner hslots hcompared hrequest hrequest'⟩
  · -- each side follows from the other, with the referrers swapped
    intro reference hreference hreads
    refine ⟨?_, ?_⟩
    · exact Uncached.exists_buildSearch_of_imp howner hreference hslots hcompared hreads.mp
    · exact Uncached.exists_buildSearch_of_imp howner hreference (fun n => (hslots n).symm)
        (fun k hk => (hcompared k hk).symm) hreads.mpr

/-- A shelf finds books by their titles and by whether their pages have been counted. -/
def shelf : Schema where
  id := ⟨"shelf"⟩
  slots := [{
    name := "books"
    valueType := .list (.model ⟨"book"⟩)
    collection := some {
      and := [⟨"title", ⟨.queryParameter, "title"⟩, .equal, false⟩]
      or := [⟨"pages", ⟨.queryParameter, "counted"⟩, .isThere, false⟩,
        ⟨"pages", ⟨.constant, "1"⟩, .isNotThere, false⟩] } }]

def book : Schema where
  id := ⟨"book"⟩
  slots := [{ name := "title", valueType := .text }, { name := "pages", valueType := .long }]

def shelves : Store where
  schemas := [shelf, book]
  distinct := by decide

/-- A shelf asked for with some parameters. -/
def shelfWith (parameters : List (String × String)) : Model where
  schema := shelf.id
  uri := none
  slots := []
  hints := { queryParameters := parameters }

/-- The books of one shelf have been searched for. -/
def searchedBooks : Registry :=
  ((answer (.search (shelfWith []) "books")).exec
    { conventions := atMostTwenty, store := shelves }).2

theorem existence_read_iff_counted : ∃ p s request request' reference,
    (Prototype.compile atMostTwenty shelves shelf.id).outcome = .ok p ∧
    .collection s ∈ p.slots ∧ s.comparedParameters = ["title"] ∧
    ((buildSearch s (shelfWith [("counted", "2"), ("title", "Logic")])).exec searchedBooks).1 =
      .ok request ∧
    ((buildSearch s (shelfWith [("title", "Logic")])).exec
      { conventions := atMostTwenty, store := shelves }).1 = .ok request' ∧
    (Prototype.compile atMostTwenty shelves book.id).outcome = .ok reference ∧
    (request.or.map (·.value) = [some (.long 2), some (.long 1)] ∧
      request'.or.map (·.value) = [none, some (.long 1)]) ∧
    s.ReadsExistence .standard reference (shelfWith [("counted", "2"), ("title", "Logic")]) ∧
    s.ReadsExistence .standard reference (shelfWith [("title", "Logic")]) ∧
    request.compared = request'.compared := by
  obtain ⟨p, s, request, request', hp, hs, hreference, hparameters, hrequest, hrequest', hvalues⟩ :
      ∃ p s request request',
        (Prototype.compile atMostTwenty shelves shelf.id).outcome = .ok p ∧
        .collection s ∈ p.slots ∧ s.reference = book.id ∧ s.comparedParameters = ["title"] ∧
        ((buildSearch s (shelfWith [("counted", "2"), ("title", "Logic")])).exec
          searchedBooks).1 = .ok request ∧
        ((buildSearch s (shelfWith [("title", "Logic")])).exec
          { conventions := atMostTwenty, store := shelves }).1 = .ok request' ∧
        (request.or.map (·.value) = [some (.long 2), some (.long 1)] ∧
          request'.or.map (·.value) = [none, some (.long 1)]) := by
    with_unfolding_all exact ⟨_, _, _, _, rfl, .head _, rfl, rfl, rfl, rfl, rfl, rfl⟩
  have hreached : Reached atMostTwenty shelves searchedBooks :=
    .step (.start shelves []) (.search (shelfWith []) "books")
  have hfresh : Reached atMostTwenty shelves { conventions := atMostTwenty, store := shelves } :=
    .start shelves []
  have hsame : ∀ n, (shelfWith [("counted", "2"), ("title", "Logic")]).slotValue? n =
    (shelfWith [("title", "Logic")]).slotValue? n := fun _ => rfl
  have hagree : ∀ k ∈ s.comparedParameters,
      (shelfWith [("counted", "2"), ("title", "Logic")]).hints.queryParameter? k =
        (shelfWith [("title", "Logic")]).hints.queryParameter? k := by
    rw [hparameters]
    decide
  obtain ⟨hfirst, -⟩ := existence_read_iff hreached hfresh hp hs hsame hagree
  obtain ⟨reference, hcompiled, hreads, hbuilt, hcompared⟩ := hfirst request hrequest
  rw [hreference] at hcompiled
  exact ⟨p, s, request, request', reference, hp, hs, hparameters, hrequest, hrequest', hcompiled,
    hvalues, hreads, hbuilt.mp ⟨request', hrequest'⟩, hcompared request' hrequest'⟩

/-- Whether the pages are counted is asked for with a parameter that is no number. There is no
search, although there is one without the parameter, and nothing is compared with it. -/
theorem unread_existence_fails_search : ∃ p s request,
    (Prototype.compile atMostTwenty shelves shelf.id).outcome = .ok p ∧
    .collection s ∈ p.slots ∧ s.comparedParameters = ["title"] ∧
    ((buildSearch s (shelfWith [("title", "Logic")])).exec
      { conventions := atMostTwenty, store := shelves }).1 = .ok request ∧
    ((buildSearch s (shelfWith [("counted", "yes"), ("title", "Logic")])).exec
      { conventions := atMostTwenty, store := shelves }).1 =
      .error (.coercion ⟨"yes", .long, "invalid digit found in string"⟩) := by
  with_unfolding_all exact ⟨_, _, _, rfl, .head _, rfl, rfl, rfl⟩

end Registry

end HyperSchema
