import HyperSchema.Hints
import HyperSchema.Schema.Declaration
import Mathlib.Data.List.Induction
import Mathlib.Data.String.Basic

namespace HyperSchema

theorem Text.afterLead?_eq_some_iff {lead s rest : String} :
    afterLead? lead s = some rest ↔ s = lead ++ rest := by
  rw [afterLead?, Option.map_eq_some_iff]
  refine ⟨?_, ?_⟩
  · rintro ⟨cs, hcs, rfl⟩
    rw [dropLead?_eq_some_iff] at hcs
    apply String.toList_inj.mp
    rw [hcs, String.toList_append, String.toList_ofList]
  · rintro rfl
    exact ⟨rest.toList, dropLead?_eq_some_iff.mpr String.toList_append, String.ofList_toList⟩

/-- Names with the same beginning are in the order of what follows it. -/
theorem Text.append_lt_append_iff (lead s t : String) : lead ++ s < lead ++ t ↔ s < t := by
  rw [String.lt_iff_toList_lt, String.lt_iff_toList_lt, String.toList_append, String.toList_append]
  induction lead.toList with
  | nil => rfl
  | cons c cs ih =>
    rw [List.cons_append, List.cons_append, List.cons_lt_cons_iff, ih]
    simp

theorem insertByName_of_forall_lt {α : Type} {name : String} {a : α} {l : List (String × α)}
    (h : ∀ e ∈ l, e.1 < name) : insertByName name a l = l ++ [(name, a)] := by
  induction l with
  | nil => rfl
  | cons e l ih =>
    obtain ⟨he, hl⟩ := List.forall_mem_cons.mp h
    have hlt : ¬name < e.1 := fun hlt => String.lt_irrefl name (String.lt_trans hlt he)
    have hne : name ≠ e.1 := fun heq => String.lt_irrefl name (heq ▸ he)
    rw [insertByName, if_neg hlt, if_neg hne, ih hl, List.cons_append]

namespace Hints

/-- A name stands under a slot when the slot's name and a dot come first in it. -/
def isUnder (slot name : String) : Bool := (slot ++ ".").toList.isPrefixOf name.toList

/-- Of all entries those that stand under the slot. Locale and referrer stay. -/
def under (h : Hints) (slot : String) : Hints where
  includedSlotNames := h.includedSlotNames.filter (isUnder slot)
  excludedSlotNames := h.excludedSlotNames.filter (isUnder slot)
  embeddedLinkSlotNames := h.embeddedLinkSlotNames.filter (isUnder slot)
  queryParameters := h.queryParameters.filter fun e => isUnder slot e.1
  locale := h.locale
  referrerUri := h.referrerUri

/-- The hints with the slot's name and a dot put in front of every entry. -/
def placed (h : Hints) (slot : String) : Hints where
  includedSlotNames := h.includedSlotNames.map (slot ++ "." ++ ·)
  excludedSlotNames := h.excludedSlotNames.map (slot ++ "." ++ ·)
  embeddedLinkSlotNames := h.embeddedLinkSlotNames.map (slot ++ "." ++ ·)
  queryParameters := h.queryParameters.map fun e => (slot ++ "." ++ e.1, e.2)
  locale := h.locale
  referrerUri := h.referrerUri

/-- Parameters in the order of their names, none of them twice. -/
def Ascending (parameters : List (String × String)) : Prop := parameters.Pairwise (·.1 < ·.1)

/-- Parameters gathered one by one. The last of one name takes the place of those before. -/
def gathered (parameters : List (String × String)) : List (String × String) :=
  parameters.foldl (fun gathered e => insertByName e.1 e.2 gathered) []

theorem gathered_of_ascending {parameters : List (String × String)} (h : Ascending parameters) :
    gathered parameters = parameters := by
  induction parameters using List.reverseRecOn with
  | nil => rfl
  | append_singleton l e ih =>
    obtain ⟨hl, -, hlast⟩ := List.pairwise_append.mp h
    have hlt : ∀ f ∈ l, f.1 < e.1 := fun f hf => hlast f hf e List.mem_cons_self
    have hgathered := ih hl
    rw [gathered] at hgathered
    rw [gathered, List.foldl_append, hgathered, List.foldl_cons, List.foldl_nil,
      insertByName_of_forall_lt hlt]

variable {a b slot name rest : String}

theorem inside?_eq_some_iff : inside? slot name = some rest ↔ name = slot ++ "." ++ rest :=
  Text.afterLead?_eq_some_iff

theorem isUnder_iff : isUnder slot name ↔ ∃ rest, name = slot ++ "." ++ rest := by
  rw [isUnder, List.isPrefixOf_iff_prefix]
  refine ⟨?_, ?_⟩
  · rintro ⟨cs, hcs⟩
    refine ⟨String.ofList cs, String.toList_inj.mp ?_⟩
    rw [← hcs, String.toList_append (s := slot ++ "."), String.toList_ofList]
  · rintro ⟨rest, rfl⟩
    exact ⟨rest.toList, String.toList_append.symm⟩

/-- Inside of a slot of a slot is what is inside of the first and there inside of the second. -/
theorem inside?_dotted (a b name : String) :
    inside? (a ++ "." ++ b) name = (inside? a name).bind (inside? b) := by
  apply Option.ext
  intro rest
  simp only [Option.bind_eq_some_iff, inside?_eq_some_iff]
  refine ⟨?_, ?_⟩
  · rintro rfl
    refine ⟨b ++ "." ++ rest, ?_, rfl⟩
    simp only [String.append_assoc]
  · rintro ⟨_, rfl, rfl⟩
    simp only [String.append_assoc]

/-- A name that stands under the slot comes back, and no other name leaves anything. -/
theorem map_inside? (slot name : String) :
    (inside? slot name).map (slot ++ "." ++ ·) = Option.guard (isUnder slot) name := by
  cases h : inside? slot name with
  | none =>
    have hnot : ¬isUnder slot name := by
      rw [isUnder_iff]
      rintro ⟨rest, hrest⟩
      rw [inside?_eq_some_iff.mpr hrest] at h
      cases h
    rw [Option.map_none, Option.guard, if_neg hnot]
  | some rest =>
    have hname := inside?_eq_some_iff.mp h
    rw [Option.map_some, ← hname, Option.guard, if_pos (isUnder_iff.mpr ⟨rest, hname⟩)]

theorem map_namesInside (slot : String) (names : List String) :
    (namesInside slot names).map (slot ++ "." ++ ·) = names.filter (isUnder slot) := by
  simp only [namesInside, List.map_filterMap, map_inside?, List.filterMap_eq_filter]

theorem namesInside_map (slot : String) (names : List String) :
    namesInside slot (names.map (slot ++ "." ++ ·)) = names := by
  have hinside : inside? slot ∘ (slot ++ "." ++ ·) = some :=
    funext fun _ => inside?_eq_some_iff.mpr rfl
  rw [namesInside, List.filterMap_map, hinside, List.filterMap_some]

theorem namesInside_namesInside (a b : String) (names : List String) :
    namesInside b (namesInside a names) = namesInside (a ++ "." ++ b) names := by
  simp only [namesInside, List.filterMap_filterMap, inside?_dotted]

theorem map_parametersInside (slot : String) (parameters : List (String × String)) :
    (parametersInside slot parameters).map (fun e => (slot ++ "." ++ e.1, e.2)) =
      parameters.filter fun e => isUnder slot e.1 := by
  have hback (e : String × String) : ((inside? slot e.1).map (·, e.2)).map
      (fun e => (slot ++ "." ++ e.1, e.2)) = Option.guard (fun e => isUnder slot e.1) e := by
    calc ((inside? slot e.1).map (·, e.2)).map (fun e => (slot ++ "." ++ e.1, e.2))
      _ = ((inside? slot e.1).map (slot ++ "." ++ ·)).map (·, e.2) := by
        rw [Option.map_map, Option.map_map]
        rfl
      _ = (Option.guard (isUnder slot) e.1).map (·, e.2) := by rw [map_inside?]
      _ = Option.guard (fun e => isUnder slot e.1) e := by
        by_cases h : isUnder slot e.1 <;> simp [Option.guard, h]
  simp only [parametersInside, List.map_filterMap, hback, List.filterMap_eq_filter]

theorem parametersInside_map (slot : String) (parameters : List (String × String)) :
    parametersInside slot (parameters.map fun e => (slot ++ "." ++ e.1, e.2)) = parameters := by
  have hinside (e : String × String) :
      (inside? slot (slot ++ "." ++ e.1)).map (·, e.2) = some e := by
    rw [inside?_eq_some_iff.mpr rfl, Option.map_some]
  simp only [parametersInside, List.filterMap_map, Function.comp_def, hinside, List.filterMap_some]

theorem parametersInside_parametersInside (a b : String) (parameters : List (String × String)) :
    parametersInside b (parametersInside a parameters) =
      parametersInside (a ++ "." ++ b) parameters := by
  simp only [parametersInside, List.filterMap_filterMap, inside?_dotted]
  refine List.filterMap_congr fun e _ => ?_
  cases inside? a e.1 <;> rfl

theorem parametersInside_cons (slot name value : String) (parameters : List (String × String)) :
    parametersInside slot ((name, value) :: parameters) =
      ((inside? slot name).map (·, value)).toList ++ parametersInside slot parameters := by
  rw [parametersInside, List.filterMap_cons]
  cases h : inside? slot name <;> simp [h, parametersInside]

/-- Looking a parameter up inside of a slot finds what stands under the dotted name. -/
theorem lookup_parametersInside (slot k : String) (parameters : List (String × String)) :
    (parametersInside slot parameters).lookup k = parameters.lookup (slot ++ "." ++ k) := by
  induction parameters with
  | nil => rfl
  | cons e parameters ih =>
    obtain ⟨name, value⟩ := e
    rw [parametersInside_cons, List.lookup_cons]
    cases h : inside? slot name with
    | none =>
      -- outside of the slot, so not what is looked up
      have hne : (slot ++ "." ++ k == name) = false := by
        rw [beq_eq_false_iff_ne]
        intro heq
        rw [inside?_eq_some_iff.mpr heq.symm] at h
        cases h
      rw [hne]
      exact ih
    | some rest =>
      have hsame : (slot ++ "." ++ k == name) = (k == rest) := by
        rw [Bool.eq_iff_iff, beq_iff_eq, beq_iff_eq, inside?_eq_some_iff.mp h]
        exact String.append_right_inj _
      rw [hsame, ← ih, Option.map_some, Option.toList_some, List.singleton_append,
        List.lookup_cons]

theorem ascending_parametersInside (slot : String) {parameters : List (String × String)}
    (h : Ascending parameters) : Ascending (parametersInside slot parameters) := by
  have hunder := h.filter fun e => isUnder slot e.1
  rw [← map_parametersInside, List.pairwise_map] at hunder
  exact hunder.imp (Text.append_lt_append_iff _ _ _).mp

/-- Nesting leaves the entries under the slot, with its name taken off. -/
theorem placed_nested (h : Hints) (slot : String) : (h.nested slot).placed slot = h.under slot := by
  simp only [nested, placed, under, map_namesInside, map_parametersInside]

/-- Nesting takes off what placing puts in front, and leaves nothing out. -/
theorem nested_placed (h : Hints) (slot : String) : (h.placed slot).nested slot = h := by
  simp only [nested, placed, namesInside_map, parametersInside_map]

/-- Only what stands under the slot counts for the documents it holds. -/
theorem nested_under (h : Hints) (slot : String) : (h.under slot).nested slot = h.nested slot := by
  rw [← placed_nested, nested_placed]

/-- Nesting along two slots is nesting by the dotted name, for entries and for looking parameters
up. Of every list it leaves the entries under the slot in their order, as often as they stand there,
with the slot's name taken off once, and no two parameters come to have one name. -/
theorem nested_homomorphism (h : Hints) (a b : String) :
    (h.nested a).nested b = h.nested (a ++ "." ++ b) ∧
    (∀ k, (h.nested a).queryParameter? k = h.queryParameter? (a ++ "." ++ k)) ∧
    (h.nested a).placed a = h.under a ∧ (h.placed a).nested a = h ∧
    (Ascending h.queryParameters → Ascending (h.nested a).queryParameters ∧
      gathered (h.nested a).queryParameters = (h.nested a).queryParameters) := by
  refine ⟨?_, ?_, ?_, ?_, ?_⟩
  · simp only [nested, namesInside_namesInside, parametersInside_parametersInside]
  · intro k
    exact lookup_parametersInside a k h.queryParameters
  · exact placed_nested h a
  · exact nested_placed h a
  · intro hascending
    have hnested := ascending_parametersInside a hascending
    exact ⟨hnested, gathered_of_ascending hnested⟩

/-- Hints that name the slot `shelf` in front of nothing, of itself and of other dots. -/
def shelved : Hints where
  includedSlotNames := ["shelf.shelf.title", "shelf", "shelf.", "shelves.title",
    "shelf.shelf.title", "shelf..title"]
  queryParameters := [("page", "1"), ("shelf.", "2"), ("shelf..page", "3"), ("shelf.page", "4")]
  locale := some "de"

theorem nested_homomorphism_shelved :
    Ascending shelved.queryParameters ∧
    (shelved.nested "shelf").nested "" = shelved.nested "shelf." ∧
    (shelved.nested "shelf").includedSlotNames =
      ["shelf.title", "", "shelf.title", ".title"] ∧
    gathered (shelved.nested "shelf").queryParameters =
      [("", "2"), (".page", "3"), ("page", "4")] ∧
    (shelved.nested "shelf").queryParameter? ".page" = some "3" := by
  have hascending : Ascending shelved.queryParameters := by
    rw [Ascending]
    decide
  obtain ⟨hdotted, hlookup, -, -, hnested⟩ := nested_homomorphism shelved "shelf" ""
  refine ⟨hascending, ?_, by decide, ?_, ?_⟩
  · exact hdotted
  · rw [(hnested hascending).2]
    decide
  · rw [hlookup]
    decide

end Hints

end HyperSchema
