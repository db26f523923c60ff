import HyperSchema.Proofs.ValueType.Document
import HyperSchema.Schema.Document
import Mathlib.Data.List.Forall2
import Mathlib.Logic.Relation

namespace HyperSchema

theorem Json.rel_only? {r : α → β → Prop} {l : List α} {m : List β} (h : List.Forall₂ r l m) :
    Option.Rel r (only? l) (only? m) := by
  cases h with
  | nil => exact .none
  | cons hab hrest => cases hrest with
    | nil => exact .some hab
    | cons => exact .none

namespace ValueType
open Json

/-- A key other than that of the kind and that of what the kind carries. Keys that other kinds
carry are among them. -/
def Unrelated (key : String) (members : List (String × Json)) : Prop :=
  key ≠ "type" ∧ ∀ tag ∈ valuesOf "type" members, (kindName? tag).bind carriedKey? ≠ some key

instance (key : String) (members : List (String × Json)) : Decidable (Unrelated key members) :=
  inferInstanceAs (Decidable (_ ∧ _))

/-- Two trees that differ at one place: in the order of the members of an object, or in a member
more. The place may be at any depth. -/
inductive Respelling : Json → Json → Prop
  | order {members others : List (String × Json)} (h : members.Perm others) :
    Respelling (.object members) (.object others)
  | extra {members : List (String × Json)} (key : String) (value : Json)
    (h : Unrelated key members) :
    Respelling (.object members) (.object ((key, value) :: members))
  | member (before : List (String × Json)) (key : String) {i j : Json}
    (after : List (String × Json)) (h : Respelling i j) :
    Respelling (.object (before ++ (key, i) :: after)) (.object (before ++ (key, j) :: after))
  | item (before : List Json) {i j : Json} (after : List Json) (h : Respelling i j) :
    Respelling (.array (before ++ i :: after)) (.array (before ++ j :: after))

/-- Trees that any number of changes to order and unrelated members lead from one to the other. -/
def SameDocument : Json → Json → Prop := Relation.EqvGen Respelling

/-- Trees that the reader takes alike wherever they stand. -/
structure Alike (i j : Json) : Prop where
  string : string? i = string? j
  strings : items? string? i = items? string? j
  kind : kindName? i = kindName? j
  nested : ofNested? i = ofNested? j

namespace Alike

theorem refl (j : Json) : Alike j j := ⟨rfl, rfl, rfl, rfl⟩

theorem ofCarried?_eq {i j : Json} (h : Alike i j) (kind : String) :
    ofCarried? kind i = ofCarried? kind j := by
  unfold ofCarried?
  rw [h.string, h.strings, h.nested]

theorem rel_refl (a : Option Json) : Option.Rel Alike a a := by
  cases a with
  | none => exact .none
  | some j => exact .some (.refl j)

theorem forall₂_refl (js : List Json) : List.Forall₂ Alike js js :=
  List.forall₂_same.mpr fun j _ => .refl j

variable {i j : Json}

theorem forall₂_items (h : Alike i j) (before after : List Json) :
    List.Forall₂ Alike (before ++ i :: after) (before ++ j :: after) :=
  List.rel_append (forall₂_refl before) (.cons h (forall₂_refl after))

theorem forall₂_valuesOf (h : Alike i j) (before after : List (String × Json)) (key k : String) :
    List.Forall₂ Alike (valuesOf k (before ++ (key, i) :: after))
      (valuesOf k (before ++ (key, j) :: after)) := by
  simp only [valuesOf_append, valuesOf_cons]
  by_cases hk : key = k
  · simp only [if_pos hk]
    exact h.forall₂_items _ _
  · simp only [if_neg hk]
    exact forall₂_refl _

end Alike

theorem bind_eq_of_rel {r : α → β → Prop} {a : Option α} {b : Option β} {f : α → Option γ}
    {g : β → Option γ} (h : Option.Rel r a b) (hfg : ∀ i j, a = some i → r i j → f i = g j) :
    a.bind f = b.bind g := by
  cases h with
  | none => rfl
  | some hij => exact hfg _ _ rfl hij

theorem ofParts?_congr {kind : String} (parts others : String → List Json)
    (h : ∀ key, carriedKey? kind = some key →
      Option.Rel Alike (only? (parts key)) (only? (others key))) :
    ofParts? kind (parts "options") (parts "schema") (parts "name")
        ((parts "element").map ofNested?) =
      ofParts? kind (others "options") (others "schema") (others "name")
        ((others "element").map ofNested?) := by
  cases hkey : carriedKey? kind with
  | none => exact ofParts?_of_carries_nothing hkey ..
  | some key =>
    rw [ofParts?_of_carries hkey parts, ofParts?_of_carries hkey others]
    exact bind_eq_of_rel (h key hkey) fun i j _ hij => hij.ofCarried?_eq kind

theorem ofNested?_object_congr {members others : List (String × Json)}
    (htype : Option.Rel Alike (only? (valuesOf "type" members)) (only? (valuesOf "type" others)))
    (hcarried : ∀ tag ∈ valuesOf "type" members,
      ∀ key, (kindName? tag).bind carriedKey? = some key →
        Option.Rel Alike (only? (valuesOf key members)) (only? (valuesOf key others))) :
    ofNested? (.object members) = ofNested? (.object others) := by
  rw [ofNested?_object, ofNested?_object]
  refine bind_eq_of_rel htype fun tag other htag halike => ?_
  have hmem : tag ∈ valuesOf "type" members := by
    rw [only?_eq_some_iff.mp htag]
    exact List.mem_singleton_self tag
  rw [← halike.kind]
  refine Option.bind_congr fun kind hkind => ?_
  refine ofParts?_congr (fun key => valuesOf key members) (fun key => valuesOf key others)
    fun key hkey => ?_
  exact hcarried tag hmem key (by rw [hkind, Option.bind_some, hkey])

theorem ofItems?_congr {kind : String} {rest others : List Json}
    (h : List.Forall₂ Alike rest others) :
    ofItems? kind rest (elementItems rest) = ofItems? kind others (elementItems others) := by
  have hparts : ofParts? kind rest rest rest (elementItems rest) =
      ofParts? kind others others others (elementItems others) := by
    rw [elementItems_eq, elementItems_eq]
    exact ofParts?_congr (fun _ => rest) (fun _ => others) fun _ _ => rel_only? h
  have hempty : rest.isEmpty = others.isEmpty := by
    cases h <;> rfl
  rw [ofItems?, ofItems?, hparts, hempty]

theorem ofNested?_array_congr {items others : List Json} (h : List.Forall₂ Alike items others) :
    ofNested? (.array items) = ofNested? (.array others) := by
  cases h with
  | nil => rfl
  | cons htag hrest => simp only [ofNested?, htag.kind, ofItems?_congr hrest]

theorem items?_congr {items others : List Json} (h : List.Forall₂ Alike items others) :
    items? string? (.array items) = items? string? (.array others) := by
  rw [items?, items?]
  induction h with
  | nil => rfl
  | cons hij _ ih => rw [List.mapM_cons, List.mapM_cons, hij.string, ih]

theorem all_string_congr {js others : List Json} (h : List.Forall₂ Alike js others) :
    (js.all fun j => (string? j).isSome) = others.all fun j => (string? j).isSome := by
  induction h with
  | nil => rfl
  | cons hij _ ih => rw [List.all_cons, List.all_cons, hij.string, ih]

/-- No part of the reader tells two trees apart that differ in order or in an unrelated member. -/
theorem Respelling.alike {i j : Json} (h : Respelling i j) : Alike i j := by
  induction h with
  | @order members others h =>
    have hsame : ∀ key, only? (valuesOf key members) = only? (valuesOf key others) :=
      fun key => only?_perm (valuesOf_perm h)
    refine ⟨rfl, rfl, rfl, ofNested?_object_congr ?_ fun _ _ key _ => ?_⟩
    · rw [hsame]
      exact Alike.rel_refl _
    · rw [hsame]
      exact Alike.rel_refl _
  | @extra members key value h =>
    refine ⟨rfl, rfl, rfl, ofNested?_object_congr ?_ fun tag htag other hother => ?_⟩
    · rw [valuesOf_cons, if_neg h.1]
      exact Alike.rel_refl _
    · have hne : key ≠ other := by
        rintro rfl
        exact h.2 tag htag hother
      rw [valuesOf_cons, if_neg hne]
      exact Alike.rel_refl _
  | member before key after _ ih =>
    have hrel := fun k => rel_only? (ih.forall₂_valuesOf before after key k)
    exact ⟨rfl, rfl, rfl, ofNested?_object_congr (hrel _) fun _ _ k _ => hrel k⟩
  | item before after _ ih =>
    have hitems := ih.forall₂_items before after
    exact ⟨rfl, items?_congr hitems, rfl, ofNested?_array_congr hitems⟩

theorem Respelling.namesKind_eq {i j : Json} (h : Respelling i j) : namesKind i = namesKind j := by
  cases h with
  | order h => exact (valuesOf_perm h).all_eq
  | extra key value h => rw [namesKind, namesKind, valuesOf_cons, if_neg h.1]
  | member before key after h =>
    exact all_string_congr (h.alike.forall₂_valuesOf before after key "type")
  | item before after h => cases before with
    | nil => rw [List.nil_append, List.nil_append, namesKind_array, namesKind_array, h.alike.string]
    | cons => rw [List.cons_append, List.cons_append, namesKind_array, namesKind_array]

theorem Respelling.ofJson?_eq {i j : Json} (h : Respelling i j) : ofJson? i = ofJson? j := by
  rw [ofJson?, ofJson?, h.namesKind_eq, h.alike.nested]

theorem SameDocument.ofJson?_eq {i j : Json} (h : SameDocument i j) : ofJson? i = ofJson? j := by
  induction h with
  | rel _ _ h => exact h.ofJson?_eq
  | refl => rfl
  | symm _ _ _ ih => exact ih.symm
  | trans _ _ _ _ _ ih ih' => exact ih.trans ih'

theorem SameDocument.ofJson?_toJson {t : ValueType} {j : Json} (h : SameDocument t.toJson j) :
    ofJson? j = some t :=
  h.ofJson?_eq.symm.trans t.ofJson?_toJson

/-- Every type is read back from its document. Trees that differ in the order of members and in
unrelated members, at whatever depth, are read alike, whether they can be read or not. Even up to
such differences only equal types have the same document. -/
theorem documents_faithful :
    (∀ t : ValueType, ofJson? t.toJson = some t) ∧
      (∀ i j : Json, SameDocument i j → ofJson? i = ofJson? j) ∧
        ∀ t u : ValueType, SameDocument t.toJson u.toJson ↔ t = u := by
  refine ⟨ofJson?_toJson, fun i j => SameDocument.ofJson?_eq, fun t u => ⟨fun h => ?_, ?_⟩⟩
  · exact Option.some.inj (h.ofJson?_toJson.symm.trans u.ofJson?_toJson)
  · rintro rfl
    exact .refl _

/-- A list of books whose document has its keys in another order, and on both levels a key that
another kind carries. -/
theorem documents_faithful_books :
    let books := ValueType.list (.model ⟨"urn:doc:book"⟩)
    let shuffled := Json.object [
      ("schema", .null),
      ("element", .object [
        ("options", .array []),
        ("schema", .string "urn:doc:book"),
        ("type", .string "model")]),
      ("type", .string "list")]
    SameDocument books.toJson shuffled ∧ ofJson? shuffled = some books := by
  intro books shuffled
  have hsame : SameDocument books.toJson shuffled := by
    -- the element first, then the list around it
    refine .trans _ _ _ (.rel _ _ (.member [("type", .string "list")] "element" []
      (.order (.swap _ _ [])))) ?_
    refine .trans _ _ _ (.rel _ _ (.member [("type", .string "list")] "element" []
      (.extra "options" (.array []) (by decide)))) ?_
    refine .trans _ _ _ (.rel _ _ (.order (.swap _ _ []))) ?_
    exact .rel _ _ (.extra "schema" .null (by decide))
  exact ⟨hsame, (documents_faithful.2.1 _ _ hsame).symm.trans (documents_faithful.1 books)⟩

/-- A member can only be added to an object that stays readable if it is unrelated: otherwise a
part of the type would be there twice. -/
theorem unrelated_of_ofNested? {members : List (String × Json)} {key : String} {value : Json}
    {t u : ValueType} (ht : ofNested? (.object members) = some t)
    (hu : ofNested? (.object ((key, value) :: members)) = some u) : Unrelated key members := by
  obtain ⟨tag, htag, hparts⟩ := parts_of_ofNested?_object ht
  obtain ⟨tag', htag', hparts'⟩ := parts_of_ofNested?_object hu
  have htype : key ≠ "type" := by
    rintro rfl
    rw [valuesOf_cons, if_pos rfl, htag] at htag'
    cases htag'
  rw [valuesOf_cons, if_neg htype, htag] at htag'
  cases htag'
  refine ⟨htype, fun other hother hcarried => ?_⟩
  rw [htag, List.mem_singleton] at hother
  subst hother
  obtain ⟨j, hj⟩ := hparts key hcarried
  obtain ⟨j', hj'⟩ := hparts' key hcarried
  rw [valuesOf_cons, if_pos rfl, hj] at hj'
  cases hj'

/-- A member more goes unnoticed exactly if it is unrelated; otherwise nothing is read. -/
theorem ofJson?_extra {members : List (String × Json)} {t : ValueType}
    (h : ofJson? (.object members) = some t) (key : String) (value : Json) :
    ofJson? (.object ((key, value) :: members)) =
      if Unrelated key members then some t else none := by
  split
  case isTrue hkey => exact (Respelling.extra key value hkey).ofJson?_eq.symm.trans h
  case isFalse hkey =>
    rw [Option.eq_none_iff_forall_ne_some]
    intro u hu
    exact hkey (unrelated_of_ofNested? (ofNested?_of_ofJson? h) (ofNested?_of_ofJson? hu))

end ValueType

/-- Within a schema only a part without a value and the limit on nesting keep a document of a type
from being read. -/
theorem Document.type?_eq_some_iff {t : ValueType} {j : Json} {nesting : Nat}
    (h : ValueType.SameDocument t.toJson j) :
    type? nesting j = some t ↔ j.isReadable = true ∧ nesting + j.depth ≤ Json.depthLimit := by
  simp [type?, h.ofJson?_toJson]

end HyperSchema
