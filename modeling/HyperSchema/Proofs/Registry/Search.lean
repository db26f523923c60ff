import HyperSchema.Proofs.Prototype.Indexes
import HyperSchema.Proofs.Registry.Reached
import HyperSchema.Proofs.ValueSource

namespace HyperSchema

/-- The criterion is planned as it is declared. -/
structure PlannedCriterion.DeclaredBy (form : TextForm) (reference p : Prototype)
    (d : CriterionDeclaration) (planned : PlannedCriterion) : Prop where
  source : ValueSource.compile form reference d.referenceSlot p d.source = .ok planned.source
  operator : planned.operator = d.operator
  caseInsensitive : planned.caseInsensitive = d.caseInsensitive

/-- The criterion compares the slot declared as declared, with what the source declared gives for
this referrer. There is a pattern when there is a value to match by, and it is that value. -/
structure Criterion.DeclaredBy (form : TextForm) (reference p : Prototype) (referrer : Model)
    (d : CriterionDeclaration) (criterion : Criterion) : Prop where
  operator : criterion.operator = d.operator
  slot : reference.realName? d.referenceSlot = some criterion.slot
  value : ∃ source, ValueSource.compile form reference d.referenceSlot p d.source = .ok source ∧
    source.referrer = p.schema ∧ source.resolve form referrer = .ok criterion.value
  regex : criterion.regex.isSome ↔ d.operator = .regex ∧ criterion.value.isSome
  pattern : ∀ r, criterion.regex = some r → ∃ v, criterion.value = some v ∧
    form.pattern? (v.asText?.getD (form.format v)) d.caseInsensitive = some r

namespace PlannedCriterion

variable {form : TextForm} {reference p : Prototype} {d : CriterionDeclaration}
  {planned : PlannedCriterion}

theorem compile_eq_ok_iff :
    compile form reference p d = .ok planned ↔ planned.DeclaredBy form reference p d := by
  rw [compile, map_eq_ok_iff]
  refine ⟨?_, ?_⟩
  · rintro ⟨source, hsource, rfl⟩
    exact ⟨hsource, rfl, rfl⟩
  · intro h
    refine ⟨planned.source, h.source, ?_⟩
    rw [← h.operator, ← h.caseInsensitive]

/-- A pattern is read exactly when the operator asks for one and there is a value. -/
theorem regexFor_of_ok {value : Option Value} {regex : Option Regex}
    (h : planned.regexFor form value = .ok regex) :
    (regex.isSome ↔ planned.operator = .regex ∧ value.isSome) ∧
      ∀ r, regex = some r → ∃ v, value = some v ∧
        form.pattern? (v.asText?.getD (form.format v)) planned.caseInsensitive = some r := by
  unfold regexFor at h
  split at h
  next v hop =>
    split at h
    next r hr =>
      cases h
      exact ⟨by simp [hop], fun s hs => ⟨v, rfl, hs ▸ hr⟩⟩
    next => cases h
  next hop =>
    cases h
    refine ⟨?_, by simp⟩
    simp only [Option.isSome_none, Bool.false_eq_true, false_iff, not_and,
      Option.isSome_iff_exists]
    intro hregex ⟨v, hv⟩
    exact hop v hregex hv

/-- A planned criterion that a value is found for is bound as declared. -/
theorem DeclaredBy.bind {c : Conventions} {referrer : Model} {criterion : Criterion}
    (h : planned.DeclaredBy c.form reference p d)
    (hbind : Uncached.bindCriterion c referrer planned = .ok criterion) :
    criterion.DeclaredBy c.form reference p referrer d := by
  obtain ⟨value, hvalue, hbind⟩ := bind_eq_ok_iff.mp hbind
  obtain ⟨regex, hregex, rfl⟩ := map_eq_ok_iff.mp hbind
  obtain ⟨hsome, hpattern⟩ := regexFor_of_ok hregex
  rw [Uncached.resolve, liftFailure_eq_ok_iff] at hvalue
  rw [h.operator] at hsome
  rw [h.caseInsensitive] at hpattern
  exact {
    operator := h.operator
    slot := ValueSource.realName?_of_compile h.source
    value := ⟨planned.source, h.source, ValueSource.referrer_of_compile h.source, hvalue⟩
    regex := hsome
    pattern := hpattern }

end PlannedCriterion

namespace Prototype
open Lineage

/-- A collection is what the declaration of its name that counts says. -/
theorem collection_declaredBy {c : Conventions} {store : Store} {id : SchemaId} {p : Prototype}
    {lineage : List Schema} (hp : (compile c store id).outcome = .ok p)
    (hl : IsLineage store id lineage) {s : CollectionSlot} (hs : .collection s ∈ p.slots) :
    ∃ d k, Wins lineage (s.base.declaring, .value d) ∧ d.name = s.name ∧
      d.collection = some k ∧ s.DeclaredBy c.settings d k := by
  obtain ⟨⟨declaring, d⟩, hx, hc⟩ := (merged_of_compile hp hl).mem_iff.mp hs
  have hname := Declaration.name_of_compile hc
  have hbase : s.base = d.base id declaring := (Declaration.compile_of_ok hc).1
  have hd := Declaration.compile_declaredBy hc
  cases d with
  | link d => exact hd.elim
  | value d =>
    obtain ⟨k, hk, hd⟩ := hd
    rw [hbase, Declaration.base_declaring]
    exact ⟨d, k, wins_iff.mpr hx, hname.symm, hk, hd⟩

end Prototype

namespace Registry
open Lineage Prototype

variable {c : Conventions} {store : Store} {r : Registry} {id : SchemaId} {p : Prototype}

theorem plan_of_searchPlan {s : CollectionSlot} {plan : SearchPlan}
    (h : Uncached.searchPlan c store s = .ok plan)
    (hp : Uncached.prototype c store s.base.owner = .ok p) :
    ∃ reference, Uncached.prototype c store s.reference = .ok reference ∧
      s.and.mapM (PlannedCriterion.compile c.form reference p) = .ok plan.and ∧
      s.or.mapM (PlannedCriterion.compile c.form reference p) = .ok plan.or ∧
      plan.reference = s.reference ∧ plan.limit = s.limit := by
  simp only [Uncached.searchPlan, hp, SearchPlan.compile, bind_eq_ok_iff] at h
  obtain ⟨reference, hreference, q, hq, and, hand, or, hor, h⟩ := h
  cases hq
  cases h
  exact ⟨reference, hreference, hand, hor, rfl, rfl⟩

/-- All sources of a plan are seen from the schema that it was compiled for. -/
theorem referrer_of_mapM_compile {reference : Prototype} {ds : List CriterionDeclaration}
    {planned : List PlannedCriterion}
    (h : ds.mapM (PlannedCriterion.compile c.form reference p) = .ok planned) :
    ∀ x ∈ planned, x.source.referrer = p.schema := by
  refine (forall_mem_iff_of_forall₂ (P := fun _ => True) ?_ (mapM_eq_ok_iff.mp h)).mp (by simp)
  intro d x hd
  have hsource := (PlannedCriterion.compile_eq_ok_iff.mp hd).source
  exact iff_of_true trivial (ValueSource.referrer_of_compile hsource)

/-- A search is made with what the declaration of the collection that counts declares: criterion for
criterion in the order declared, each with what its source gives for the referrer as seen from the
referrer's schema, whichever schema the collection is inherited from. -/
theorem buildSearch_faithful (h : Reached c store r)
    (hp : (Prototype.compile c store id).outcome = .ok p) {s : CollectionSlot}
    (hs : .collection s ∈ p.slots) {referrer : Model} {request : SearchRequest}
    (hrequest : ((buildSearch s referrer).exec r).1 = .ok request) :
    ∃ lineage d k reference plan, IsLineage store id lineage ∧
      Wins lineage (s.base.declaring, .value d) ∧ d.name = s.name ∧ d.collection = some k ∧
      d.valueType = .list (.model request.reference) ∧
      (Prototype.compile c store request.reference).outcome = .ok reference ∧
      List.Forall₂ (Criterion.DeclaredBy c.form reference p referrer) k.and request.and ∧
      List.Forall₂ (Criterion.DeclaredBy c.form reference p referrer) k.or request.or ∧
      ((searchPlan s).exec r).1 = .ok plan ∧
      (∀ x ∈ plan.and ++ plan.or, x.source.referrer = id) ∧
      request.limit = (k.limit <|> c.settings.defaultResultLimit) ∧
      request.hints = referrer.hints.nested s.name ∧ request.slot = s.name ∧
      request.referrer = referrer := by
  obtain ⟨lineage, hl, -⟩ := bases_of_compile hp
  have hnamed := (slotNamed?_iff_mem hp hl).mpr ⟨hs, rfl⟩
  have howner := prototype_of_owner hp hnamed
  rw [h.coherent.buildSearch_eq hp hnamed] at hrequest
  simp only [Uncached.buildSearch, bind_eq_ok_iff] at hrequest
  obtain ⟨plan, hplan, and, hand, or, hor, projection, -, hrequest⟩ := hrequest
  cases hrequest
  obtain ⟨reference, hreference, hand', hor', href, hlimit⟩ := plan_of_searchPlan hplan howner
  obtain ⟨d, k, hwins, hname, hk, hd⟩ := collection_declaredBy hp hl hs
  have hbound (a : CriterionDeclaration) (b : PlannedCriterion) (e : Criterion)
      (hab : PlannedCriterion.compile c.form reference p a = .ok b)
      (hbe : Uncached.bindCriterion c referrer b = .ok e) :
      e.DeclaredBy c.form reference p referrer a :=
    (PlannedCriterion.compile_eq_ok_iff.mp hab).bind hbe
  have hseen : ∀ x ∈ plan.and ++ plan.or, x.source.referrer = id := by
    rw [← schema_of_compile hp, List.forall_mem_append]
    exact ⟨referrer_of_mapM_compile hand', referrer_of_mapM_compile hor'⟩
  refine ⟨lineage, d, k, reference, plan, hl, hwins, hname, hk, ?_, ?_, ?_, ?_, ?_, hseen, ?_, rfl,
    rfl, rfl⟩
  · rw [href, hd.reference]
  · rwa [href]
  · rw [← hd.and]
    exact forall₂_of_mapM_mapM hbound hand' hand
  · rw [← hd.or]
    exact forall₂_of_mapM_mapM hbound hor' hor
  · rw [h.coherent.searchPlan_eq hp hnamed, hplan]
  · rw [hlimit, hd.limit]

/-- A course finds lessons whose title matches its topic and that are of one of two levels. -/
def lessons : SlotDeclaration where
  name := "lessons"
  valueType := .list (.model ⟨"lesson"⟩)
  collection := some {
    and := [⟨"subject", ⟨.referrerSlot, "subject"⟩, .regex, false⟩]
    or := [⟨"level", ⟨.constant, "1"⟩, .equal, false⟩,
      ⟨"level", ⟨.queryParameter, "level"⟩, .lessThan, false⟩] }

def course : Schema where
  id := ⟨"course"⟩
  slots := [{ name := "topic", valueType := .text, aliases := ["subject"] }, lessons]

def lesson : Schema where
  id := ⟨"lesson"⟩
  slots := [{ name := "title", valueType := .text, aliases := ["subject"] },
    { name := "level", valueType := .long }]

/-- A seminar has its lessons as a course. -/
def seminar : Schema := { id := ⟨"seminar"⟩, bases := [⟨"course"⟩] }

def campus : Store where
  schemas := [course, lesson, seminar]
  distinct := by decide

/-- A seminar asked for with the titles of its lessons, and without any level. -/
def logic : Model where
  schema := seminar.id
  uri := none
  slots := [("topic", .text "logic")]
  hints := { includedSlotNames := ["lessons.title"] }

def atMostTwenty : Conventions := ⟨.standard, { defaultResultLimit := some 20 }⟩

/-- The criteria are remembered from one search for the other. -/
def searchedOnce : Registry :=
  ((answer (.search logic "lessons")).exec { conventions := atMostTwenty, store := campus }).2

theorem buildSearch_faithful_logic : ∃ p s request reference,
    (Prototype.compile atMostTwenty campus seminar.id).outcome = .ok p ∧
    .collection s ∈ p.slots ∧ s.base.declaring = course.id ∧
    searchedOnce.plans.length = 1 ∧ ((buildSearch s logic).exec searchedOnce).1 = .ok request ∧
    (Prototype.compile atMostTwenty campus lesson.id).outcome = .ok reference ∧
    request.and.map (fun e => (e.slot, e.value)) = [("title", some (.text "logic"))] ∧
    request.or.map (fun e => (e.slot, e.value)) = [("level", some (.long 1)), ("level", none)] ∧
    List.Forall₂ (Criterion.DeclaredBy .standard reference p logic)
      [⟨"subject", ⟨.referrerSlot, "subject"⟩, .regex, false⟩] request.and ∧
    List.Forall₂ (Criterion.DeclaredBy .standard reference p logic)
      [⟨"level", ⟨.constant, "1"⟩, .equal, false⟩,
        ⟨"level", ⟨.queryParameter, "level"⟩, .lessThan, false⟩] request.or ∧
    request.limit = some 20 ∧ request.hints = { includedSlotNames := ["title"] } := by
  obtain ⟨p, s, request, hp, hs, hname, hdeclaring, hplans, hrequest, hlesson, hand, hor⟩ :
      ∃ p s request,
      (Prototype.compile atMostTwenty campus seminar.id).outcome = .ok p ∧
      .collection s ∈ p.slots ∧ s.name = "lessons" ∧ s.base.declaring = course.id ∧
      searchedOnce.plans.length = 1 ∧ ((buildSearch s logic).exec searchedOnce).1 = .ok request ∧
      request.reference = lesson.id ∧
      request.and.map (fun e => (e.slot, e.value)) = [("title", some (.text "logic"))] ∧
      request.or.map (fun e => (e.slot, e.value)) =
        [("level", some (.long 1)), ("level", none)] := by
    with_unfolding_all exact ⟨_, _, _, rfl, .tail _ (.head _), rfl, rfl, rfl, rfl, rfl, rfl, rfl⟩
  have hreached : Reached atMostTwenty campus searchedOnce :=
    .step (.start campus []) (.search logic "lessons")
  obtain ⟨lineage, d, k, reference, plan, hl, hwins, hd, hk, -, hreference, hands, hors, -, -,
    hlimit, hhints, -, -⟩ := buildSearch_faithful hreached hp hs hrequest
  rw [hlesson] at hreference
  have hl' : IsLineage campus seminar.id [seminar, course] :=
    (isLineage_cons_iff (by decide)).mpr (by decide +kernel)
  obtain rfl := hl.unique hl'
  have hfirst : (declared [seminar, course]).find? (Declared.name · = "lessons") =
    some (course.id, .value lessons) := rfl
  have hsame : (declared [seminar, course]).find? (Declared.name · = "lessons") =
    some (s.base.declaring, .value d) := by rw [← hname, ← hd]; exact hwins
  obtain ⟨-, rfl⟩ : course.id = s.base.declaring ∧ lessons = d := by
    simpa using hfirst.symm.trans hsame
  obtain rfl := Option.some.inj hk
  rw [hname] at hhints
  exact ⟨p, s, request, reference, hp, hs, hdeclaring, hplans, hrequest, hreference, hand, hor,
    hands, hors, hlimit, hhints⟩

end Registry

end HyperSchema
