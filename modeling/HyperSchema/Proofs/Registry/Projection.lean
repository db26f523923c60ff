import HyperSchema.Proofs.Registry.Separation

namespace HyperSchema

/-- A property that the hints leave in. -/
def Prototype.IsLeft (p : Prototype) (hints : Hints) (n : String) : Prop :=
  n ∈ p.propertySlotNames ∧ n ∉ hints.excludedSlotNames

theorem Prototype.mem_slotsLeft_iff {p : Prototype} {hints : Hints} {n : String} :
    n ∈ p.slotsLeft hints ↔ p.IsLeft hints n := by
  rw [slotsLeft, Text.mem_nameSet, List.mem_filter, Bool.not_eq_true', List.contains_eq_mem,
    decide_eq_false_iff_not, IsLeft]

/-- What is fetched by a search that takes the slots `standard` when it is given none. -/
def SearchRequest.fetched (request : SearchRequest) (standard : List String) : List String :=
  if request.projection.isEmpty then standard else request.projection

namespace Uncached

variable {c : Conventions} {store : Store} {s : CollectionSlot} {p : Prototype} {m : Model}
  {request : SearchRequest}

/-- Where names are left out and none are asked for, the properties left are asked for. -/
theorem projection_of_excluded (hp : prototype c store s.base.owner = .ok p)
    (hrequest : buildSearch c store s m = .ok request)
    (hexcluded : request.hints.excludedSlotNames ≠ [])
    (hincluded : request.hints.includedSlotNames = []) :
    ∃ reference, prototype c store s.reference = .ok reference ∧
      request.projection = reference.slotsLeft request.hints := by
  obtain ⟨hhints, plan, hplan, hnames⟩ := nested_of_buildSearch hrequest
  obtain ⟨-, -, -, -, hreference, -⟩ := Registry.plan_of_searchPlan hplan hp
  rw [← hhints, projection, hincluded, hreference] at hnames
  simp only [List.isEmpty_nil, Bool.not_true, Bool.false_eq_true, if_false, Bool.not_eq_true',
    List.isEmpty_eq_false_iff, if_pos hexcluded, bind_eq_ok_iff] at hnames
  obtain ⟨reference, hcompiled, h⟩ := hnames
  exact ⟨reference, hcompiled, (Except.ok.inj h).symm⟩

end Uncached

namespace Registry
open Prototype

/-- Where names are left out and none are asked for, exactly the other properties of the reference
schema are asked for. Those left out stay out, whatever the search takes by default, exactly when
there is another property. -/
theorem excluded_stay_out_iff {c : Conventions} {store : Store} {r : Registry} {id : SchemaId}
    {p : Prototype} {s : CollectionSlot} {m : Model} {request : SearchRequest}
    (h : Reached c store r) (hp : (Prototype.compile c store id).outcome = .ok p)
    (hs : .collection s ∈ p.slots) (hrequest : ((buildSearch s m).exec r).1 = .ok request)
    (hexcluded : request.hints.excludedSlotNames ≠ [])
    (hincluded : request.hints.includedSlotNames = []) :
    request.hints = m.hints.nested s.name ∧
      ∃ reference, (Prototype.compile c store s.reference).outcome = .ok reference ∧
        (∀ n, n ∈ request.projection ↔ reference.IsLeft request.hints n) ∧
        (request.projection ≠ [] ↔ ∃ n, reference.IsLeft request.hints n) ∧
        ((∀ standard, ∀ n ∈ request.fetched standard, n ∉ request.hints.excludedSlotNames) ↔
          ∃ n, reference.IsLeft request.hints n) := by
  obtain ⟨lineage, hl, -⟩ := bases_of_compile hp
  have hnamed := (slotNamed?_iff_mem hp hl).mpr ⟨hs, rfl⟩
  rw [h.coherent.buildSearch_eq hp hnamed] at hrequest
  obtain ⟨hhints, -⟩ := Uncached.nested_of_buildSearch hrequest
  obtain ⟨reference, hreference, hprojection⟩ :=
    Uncached.projection_of_excluded (prototype_of_owner hp hnamed) hrequest hexcluded hincluded
  have hleft (n : String) : n ∈ request.projection ↔ reference.IsLeft request.hints n := by
    rw [hprojection, mem_slotsLeft_iff]
  have hnonempty : request.projection ≠ [] ↔ ∃ n, reference.IsLeft request.hints n := by
    simp only [← hleft, ne_eq, List.eq_nil_iff_forall_not_mem, not_forall, not_not]
  refine ⟨hhints, reference, hreference, hleft, hnonempty, ?_⟩
  rw [← hnonempty]
  refine ⟨?_, ?_⟩
  · intro hout hnone
    -- a search may fetch by default what is left out
    obtain ⟨n, hn⟩ := List.exists_mem_of_ne_nil _ hexcluded
    refine hout request.hints.excludedSlotNames n ?_ hn
    rwa [SearchRequest.fetched, hnone, List.isEmpty_nil, if_pos rfl]
  · intro hsome standard n hn
    rw [SearchRequest.fetched, List.isEmpty_eq_false_iff.mpr hsome, if_neg Bool.false_ne_true,
      hleft] at hn
    exact hn.2

/-- A folder holds files. A file has no slots but two properties and a link. -/
def folder : Schema where
  id := ⟨"folder"⟩
  slots := [{
    name := "files"
    valueType := .list (.model ⟨"file"⟩)
    collection := some {} }]

def file : Schema where
  id := ⟨"file"⟩
  slots := [{ name := "name", valueType := .text }, { name := "content", valueType := .text }]
  links := [{
    name := "self"
    relation := "self"
    method := .get
    responseType := some (.model ⟨"file"⟩) }]

def archive : Store where
  schemas := [folder, file]
  distinct := by decide

/-- A folder asked for without something of its files. -/
def folderWithout (names : List String) : Model where
  schema := folder.id
  uri := none
  slots := []
  hints := { excludedSlotNames := names }

/-- The files of one folder have been searched for. -/
def searchedFiles : Registry :=
  ((answer (.search (folderWithout []) "files")).exec
    { conventions := atMostTwenty, store := archive }).2

theorem excluded_stay_out_iff_name : ∃ p s request reference,
    (Prototype.compile atMostTwenty archive folder.id).outcome = .ok p ∧
    .collection s ∈ p.slots ∧
    ((buildSearch s (folderWithout ["files.content", "name"])).exec searchedFiles).1 =
      .ok request ∧
    request.hints.excludedSlotNames = ["content"] ∧ request.hints.includedSlotNames = [] ∧
    (Prototype.compile atMostTwenty archive file.id).outcome = .ok reference ∧
    request.projection = ["name"] ∧ (∃ n, reference.IsLeft request.hints n) ∧
    ∀ standard, ∀ n ∈ request.fetched standard, n ∉ request.hints.excludedSlotNames := by
  obtain ⟨p, s, request, hp, hs, hreference, hrequest, hexcluded, hincluded, hprojection⟩ :
      ∃ p s request, (Prototype.compile atMostTwenty archive folder.id).outcome = .ok p ∧
        .collection s ∈ p.slots ∧ s.reference = file.id ∧
        ((buildSearch s (folderWithout ["files.content", "name"])).exec searchedFiles).1 =
          .ok request ∧
        request.hints.excludedSlotNames = ["content"] ∧
        request.hints.includedSlotNames = [] ∧ request.projection = ["name"] := by
    with_unfolding_all exact ⟨_, _, _, rfl, .head _, rfl, rfl, rfl, rfl, rfl⟩
  have hreached : Reached atMostTwenty archive searchedFiles :=
    .step (.start archive []) (.search (folderWithout []) "files")
  have hnonempty : request.hints.excludedSlotNames ≠ [] := by rw [hexcluded]; decide
  obtain ⟨-, reference, hcompiled, -, hleft, hout⟩ :=
    excluded_stay_out_iff hreached hp hs hrequest hnonempty hincluded
  rw [hreference] at hcompiled
  have hname : ∃ n, reference.IsLeft request.hints n := hleft.mp (by rw [hprojection]; decide)
  exact ⟨p, s, request, reference, hp, hs, hrequest, hexcluded, hincluded, hcompiled, hprojection,
    hname, hout.mpr hname⟩

/-- With both properties of the files left out nothing is asked for, so a search that takes them by
default fetches both. -/
theorem all_excluded_widens : ∃ p s request reference,
    (Prototype.compile atMostTwenty archive folder.id).outcome = .ok p ∧
    .collection s ∈ p.slots ∧
    ((buildSearch s (folderWithout ["files.name", "files.content"])).exec
      { conventions := atMostTwenty, store := archive }).1 = .ok request ∧
    (Prototype.compile atMostTwenty archive request.reference).outcome = .ok reference ∧
    reference.propertySlotNames = ["name", "content"] ∧
    request.hints.excludedSlotNames = ["name", "content"] ∧
    request.hints.includedSlotNames = [] ∧ request.projection = [] ∧
    request.fetched ["name", "content"] = ["name", "content"] := by
  with_unfolding_all exact ⟨_, _, _, _, rfl, .head _, rfl, rfl, rfl, rfl, rfl, rfl, rfl⟩

end Registry

end HyperSchema
