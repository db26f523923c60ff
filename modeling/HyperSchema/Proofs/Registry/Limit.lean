import HyperSchema.Proofs.Registry.Search
import HyperSchema.Settings.Source

namespace HyperSchema

namespace Settings

theorem limit_ne_zero_of_checked {s t : Settings} (h : checked s = .ok t) :
    t.defaultResultLimit ≠ some 0 := by
  unfold checked at h
  split at h
  next => cases h
  next hne =>
    cases h
    exact hne

theorem limit_ne_zero_of_ofEntries {entries : Entries} {s : Settings}
    (h : ofEntries entries = .ok s) : s.defaultResultLimit ≠ some 0 := by
  simp only [ofEntries, bind_eq_ok_iff] at h
  obtain ⟨reserved, -, directory, -, filter, -, limit, -, h⟩ := h
  exact limit_ne_zero_of_checked h

/-- The settings have been read, be it from text or from a file of any format under the
environment. -/
def Read (s : Settings) : Prop :=
  (∃ text, ofToml text = .ok s) ∨
    ∃ formats files environment, loadFrom formats files environment = .ok s

/-- No default that is read is zero. -/
theorem Read.limit_ne_zero {s : Settings} (h : s.Read) : s.defaultResultLimit ≠ some 0 := by
  obtain ⟨text, h⟩ | ⟨formats, files, environment, h⟩ := h
  · unfold ofToml at h
    split at h
    next => exact limit_ne_zero_of_ofEntries h
    next => cases h
  · unfold loadFrom at h
    split at h
    next => exact limit_ne_zero_of_ofEntries h
    next => cases h

end Settings

/-- A limit is missing or at least one. -/
def IsLimit (limit : Option Nat) : Prop := ∀ n, limit = some n → 1 ≤ n

theorem isLimit_iff {limit : Option Nat} : IsLimit limit ↔ limit ≠ some 0 := by
  refine ⟨fun h hzero => absurd (h 0 hzero) (by omega), fun h n hn => ?_⟩
  by_contra hlt
  have hzero : n = 0 := by omega
  exact h (hzero ▸ hn)

/-- The default counts where nothing is declared. -/
theorem isLimit_orElse {declared default : Option Nat} (h : declared ≠ some 0) :
    IsLimit (declared <|> default) ↔ (declared = none → default ≠ some 0) := by
  cases declared with
  | none => exact isLimit_iff.trans ⟨fun h _ => h, fun h => h rfl⟩
  | some n => exact isLimit_iff.trans (iff_of_true h nofun)

namespace Prototype
open Lineage

/-- What a collection declares as its limit is not zero. -/
theorem declaredLimit_ne_zero {c : Conventions} {store : Store} {id declaring : SchemaId}
    {p : Prototype} {lineage : List Schema} (hp : (compile c store id).outcome = .ok p)
    (hl : IsLineage store id lineage) {d : SlotDeclaration} {k : CollectionDeclaration}
    (hd : Wins lineage (declaring, .value d)) (hk : d.collection = some k) :
    k.limit ≠ some 0 := by
  obtain ⟨s, -, hs⟩ := (merged_of_compile hp hl).exists_slot (wins_iff.mp hd)
  change compileValueSlot c id declaring d = .ok s at hs
  simp only [compileValueSlot, hk, liftFailure_eq_ok_iff, map_eq_ok_iff] at hs
  obtain ⟨t, ht, -⟩ := hs
  obtain ⟨-, -, -, hlimit, -⟩ := CollectionSlot.compile_eq_ok_iff.mp ht
  exact hlimit

end Prototype

namespace Registry
open Lineage Prototype

variable {c : Conventions} {store : Store} {r : Registry}

/-- A search is made with the declared limit, which is at least one, or else with the default. So
its limit is in order unless none is declared and the default is zero, which no settings that are
read have. -/
theorem search_limit_iff (h : Reached c store r) {referrer : Model} {name : String}
    {request : SearchRequest} (hrequest : ((search referrer name).exec r).1 = .ok request) :
    ∃ lineage declaring d k, IsLineage store referrer.schema lineage ∧
      Wins lineage (declaring, .value d) ∧ d.name = request.slot ∧ d.collection = some k ∧
      (IsLimit request.limit ↔ (k.limit = none → c.settings.defaultResultLimit ≠ some 0)) ∧
      (c.settings.Read → IsLimit request.limit) := by
  rw [(answers_search referrer name r h.coherent).1] at hrequest
  simp only [Uncached.search, bind_eq_ok_iff, liftFailure_eq_ok_iff] at hrequest
  obtain ⟨p, hp, s, hs, hrequest⟩ := hrequest
  have hnamed := slotNamed?_of_collectionSlot hs
  have howner := prototype_of_owner hp hnamed
  simp only [Uncached.buildSearch, bind_eq_ok_iff] at hrequest
  obtain ⟨plan, hplan, and, -, or, -, projection, -, hrequest⟩ := hrequest
  cases hrequest
  obtain ⟨-, -, -, -, -, hlimit⟩ := plan_of_searchPlan hplan howner
  obtain ⟨lineage, hl, -⟩ := bases_of_compile hp
  have hmem := (slotNamed?_iff_mem hp hl).mp hnamed
  obtain ⟨d, k, hwins, hname, hk, hd⟩ := collection_declaredBy hp hl hmem.1
  have hiff : IsLimit plan.limit ↔ (k.limit = none → c.settings.defaultResultLimit ≠ some 0) := by
    rw [hlimit, hd.limit]
    exact isLimit_orElse (declaredLimit_ne_zero hp hl hwins hk)
  exact ⟨lineage, s.base.declaring, d, k, hl, hwins, hname, hk, hiff,
    fun hread => hiff.mpr fun _ => hread.limit_ne_zero⟩

theorem search_limit_iff_logic : ∃ request,
    ((search logic "lessons").exec searchedOnce).1 = .ok request ∧
    Settings.ofToml "default_result_limit = 20" = .ok atMostTwenty.settings ∧
    request.limit = some 20 ∧ IsLimit request.limit := by
  obtain ⟨request, hrequest, hlimit⟩ : ∃ request,
      ((search logic "lessons").exec searchedOnce).1 = .ok request ∧ request.limit = some 20 := by
    with_unfolding_all exact ⟨_, rfl, rfl⟩
  have hread : Settings.ofToml "default_result_limit = 20" = .ok atMostTwenty.settings := by
    decide +kernel
  have hreached : Reached atMostTwenty campus searchedOnce :=
    .step (.start campus []) (.search logic "lessons")
  obtain ⟨-, -, -, -, -, -, -, -, -, hall⟩ := search_limit_iff hreached hrequest
  exact ⟨request, hrequest, hread, hlimit, hall (.inl ⟨_, hread⟩)⟩

/-- Settings with a default of zero that nobody has read. -/
def unread : Conventions := ⟨.standard, { defaultResultLimit := some 0 }⟩

/-- The lessons of a seminar are searched for with a limit of zero. -/
theorem zero_default_limits_search : ∃ request,
    ((search logic "lessons").exec { conventions := unread, store := campus }).1 = .ok request ∧
    request.limit = some 0 ∧ ¬IsLimit request.limit := by
  obtain ⟨request, hrequest, hlimit⟩ : ∃ request,
      ((search logic "lessons").exec { conventions := unread, store := campus }).1 =
        .ok request ∧ request.limit = some 0 := by with_unfolding_all exact ⟨_, rfl, rfl⟩
  refine ⟨request, hrequest, hlimit, ?_⟩
  rw [hlimit, isLimit_iff]
  exact fun h => h rfl

end Registry

end HyperSchema
