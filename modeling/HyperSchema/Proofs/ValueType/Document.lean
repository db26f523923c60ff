import HyperSchema.ValueType.Document

namespace HyperSchema

namespace Json

theorem valuesOf_cons (key : String) (m : String × Json) (ms : List (String × Json)) :
    valuesOf key (m :: ms) = if m.1 = key then m.2 :: valuesOf key ms else valuesOf key ms := by
  by_cases h : m.1 = key <;> simp [valuesOf, h]

theorem valuesOf_append (key : String) (ms ns : List (String × Json)) :
    valuesOf key (ms ++ ns) = valuesOf key ms ++ valuesOf key ns := by
  rw [valuesOf, List.filter_append, List.map_append]
  rfl

theorem valuesOf_perm {key : String} {ms ns : List (String × Json)} (h : ms.Perm ns) :
    (valuesOf key ms).Perm (valuesOf key ns) :=
  (h.filter _).map _

theorem only?_eq_some_iff {l : List α} {a : α} : only? l = some a ↔ l = [a] := by
  match l with
  | [] => simp [only?]
  | [b] => simp [only?]
  | b :: c :: l => simp [only?]

theorem only?_map (f : α → β) (l : List α) : only? (l.map f) = (only? l).map f := by
  match l with
  | [] => rfl
  | [_] => rfl
  | _ :: _ :: _ => rfl

theorem only?_perm {l m : List α} (h : l.Perm m) : only? l = only? m := by
  ext a
  rw [only?_eq_some_iff, only?_eq_some_iff]
  refine ⟨?_, ?_⟩
  · rintro rfl
    exact (List.singleton_perm.mp h).symm
  · rintro rfl
    exact List.perm_singleton.mp h

theorem items?_ofStrings (xs : List String) : items? string? (ofStrings xs) = some xs := by
  rw [ofStrings, items?, List.mapM_map]
  exact List.mapM_pure.trans (congrArg some (List.map_id xs))

end Json

namespace ValueType
open Json

theorem elements_eq (ms : List (String × Json)) :
    elements ms = (valuesOf "element" ms).map ofNested? := by
  induction ms with
  | nil => rfl
  | cons m ms ih =>
    rw [elements, valuesOf_cons, ih]
    split <;> rfl

theorem elementItems_eq (js : List Json) : elementItems js = js.map ofNested? := by
  induction js with
  | nil => rfl
  | cons j js ih => rw [elementItems, ih, List.map_cons]

/-- The key of what a kind carries. -/
def carriedKey? : String → Option String
  | "choice" => some "options"
  | "model" => some "schema"
  | "list" => some "element"
  | "native" => some "name"
  | _ => none

/-- Reads what a kind carries. -/
def ofCarried? (kind : String) (j : Json) : Option ValueType :=
  match kind with
  | "choice" => (items? string? j).map choice
  | "model" => (string? j).map fun s => model ⟨s⟩
  | "list" => (ofNested? j).map list
  | "native" => (string? j).map native
  | _ => none

/-- Of all parts only the one that the kind carries is read. -/
theorem ofParts?_of_carries {kind key : String} (h : carriedKey? kind = some key)
    (parts : String → List Json) :
    ofParts? kind (parts "options") (parts "schema") (parts "name")
        ((parts "element").map ofNested?) =
      (only? (parts key)).bind (ofCarried? kind) := by
  unfold carriedKey? at h
  split at h <;> cases h
  · rfl
  · rfl
  · rw [ofParts?, only?_map, Option.bind_map]
    rfl
  · rfl

theorem ofParts?_of_carries_nothing {kind : String} (h : carriedKey? kind = none)
    (options schema name options' schema' name' : List Json)
    (element element' : List (Option ValueType)) :
    ofParts? kind options schema name element = ofParts? kind options' schema' name' element' := by
  unfold ofParts?
  split
  case h_8 | h_9 | h_10 | h_11 => cases h
  all_goals rfl

theorem ofNested?_object (members : List (String × Json)) :
    ofNested? (.object members) =
      (only? (valuesOf "type" members)).bind fun tag => (kindName? tag).bind fun kind =>
        ofParts? kind (valuesOf "options" members) (valuesOf "schema" members)
          (valuesOf "name" members) ((valuesOf "element" members).map ofNested?) := by
  rw [ofNested?, elements_eq]

/-- In an object that can be read the kind is named once, and what the kind carries is there
once. -/
theorem parts_of_ofNested?_object {members : List (String × Json)} {t : ValueType}
    (h : ofNested? (.object members) = some t) :
    ∃ tag, valuesOf "type" members = [tag] ∧
      ∀ key, (kindName? tag).bind carriedKey? = some key → ∃ j, valuesOf key members = [j] := by
  rw [ofNested?_object] at h
  obtain ⟨tag, htag, h⟩ := Option.bind_eq_some_iff.mp h
  obtain ⟨kind, hkind, h⟩ := Option.bind_eq_some_iff.mp h
  refine ⟨tag, only?_eq_some_iff.mp htag, fun key hkey => ?_⟩
  rw [hkind, Option.bind_some] at hkey
  rw [ofParts?_of_carries hkey fun key => valuesOf key members] at h
  obtain ⟨j, hj, -⟩ := Option.bind_eq_some_iff.mp h
  exact ⟨j, only?_eq_some_iff.mp hj⟩

theorem ofNested?_toJson (t : ValueType) : ofNested? t.toJson = some t := by
  induction t with
  | choice options =>
    simp [toJson, ofNested?, valuesOf, only?, kindName?, ofParts?, items?_ofStrings]
  | list element ih => simp [toJson, ofNested?, elements, valuesOf, only?, kindName?, ofParts?, ih]
  | _ => simp [toJson, ofNested?, valuesOf, only?, kindName?, ofParts?, string?]

theorem namesKind_toJson (t : ValueType) : namesKind t.toJson = true := by
  cases t <;> simp [toJson, namesKind, valuesOf, string?]

theorem ofJson?_toJson (t : ValueType) : ofJson? t.toJson = some t := by
  rw [ofJson?, if_pos t.namesKind_toJson, ofNested?_toJson]

theorem ofNested?_of_ofJson? {j : Json} {t : ValueType} (h : ofJson? j = some t) :
    ofNested? j = some t := by
  rw [ofJson?] at h
  split at h
  · exact h
  · cases h

theorem namesKind_array (j : Json) (js : List Json) :
    namesKind (.array (j :: js)) = (string? j).isSome := by
  cases j <;> rfl

end ValueType

end HyperSchema
