import HyperSchema.Proofs.Failure
import HyperSchema.Proofs.Prototype.Bases
import HyperSchema.Proofs.Prototype.WellFormed
import HyperSchema.Proofs.Registry.Growth
import HyperSchema.Report

namespace HyperSchema

/-- There is one way to put identifiers in order. -/
theorem SchemaId.eq_of_perm_of_ascending {ids ids' : List SchemaId} (h : ids.Perm ids')
    (hids : ids.Pairwise (·.text < ·.text)) (hids' : ids'.Pairwise (·.text < ·.text)) :
    ids = ids' := by
  refine h.eq_of_pairwise ?_ hids hids'
  intro a b _ _ hab hba
  exact absurd (String.lt_trans hab hba) (String.lt_irrefl a.text)

namespace Store

variable {store store' : Store}

/-- Schemas of different identifiers are all kept, in the order in which they come. -/
theorem schemas_foldl_keep {docs : List Schema}
    (h : ((store.schemas ++ docs).map (·.id)).Nodup) :
    (docs.foldl keep store).schemas = store.schemas ++ docs := by
  induction docs generalizing store with
  | nil => exact (List.append_nil _).symm
  | cons s docs ih =>
    have hnew : s.id ∉ store.schemas.map (·.id) := by
      rw [List.map_append, List.map_cons] at h
      exact fun hs => (List.nodup_append.mp h).2.2 s.id hs s.id List.mem_cons_self rfl
    have hkeep : (store.keep s).schemas = store.schemas ++ [s] := by rw [keep, dif_neg hnew]
    rw [List.append_cons] at h ⊢
    rw [List.foldl_cons, ← hkeep]
    exact ih (hkeep.symm ▸ h)

theorem find?_eq_of_perm (h : store'.schemas.Perm store.schemas) (id : SchemaId) :
    store'.find? id = store.find? id := by
  apply Option.ext
  intro s
  rw [find?, find?, find?_eq_some_iff_of_nodup store'.distinct,
    find?_eq_some_iff_of_nodup store.distinct, h.mem_iff]

theorem ids_perm (store : Store) : store.ids.Perm (store.schemas.map (·.id)) := by
  have hnodup : store.ids.Nodup := by
    refine store.ascending_ids.imp ?_
    rintro a _ hlt rfl
    exact String.lt_irrefl a.text hlt
  rw [List.perm_ext_iff_of_nodup hnodup store.distinct]
  intro id
  rw [mem_ids_iff, Option.isSome_iff_ne_none, ne_eq, find?_eq_none_iff, not_not]

theorem ids_eq_of_perm (h : store'.schemas.Perm store.schemas) : store'.ids = store.ids := by
  have hperm := store'.ids_perm.trans ((h.map (·.id)).trans store.ids_perm.symm)
  exact SchemaId.eq_of_perm_of_ascending hperm store'.ascending_ids store.ascending_ids

end Store

/-- The extension of a name is what stands behind its last point, unless that stands in front. -/
theorem Folder.extension?_eq_some_iff {name ending : String} : extension? name = some ending ↔
    '.' ∉ ending.toList ∧ ∃ stem, stem ≠ "" ∧ name = stem ++ "." ++ ending := by
  rw [extension?]
  refine ⟨?_, ?_⟩
  · intro h
    split at h
    next dot c rest hdrop =>
      have hback := List.takeWhile_append_dropWhile (p := (· != '.')) (l := name.toList.reverse)
      have hplain := List.all_takeWhile (p := (· != '.')) (l := name.toList.reverse)
      have hdot : dot = '.' := by
        have hhead := List.head?_dropWhile_not (· != '.') name.toList.reverse
        rw [hdrop] at hhead
        simpa using hhead
      generalize name.toList.reverse.takeWhile (· != '.') = word at h hback hplain
      obtain rfl := Option.some.inj h
      refine ⟨?_, String.ofList (c :: rest).reverse, by simp, ?_⟩
      · intro hmem
        rw [String.toList_ofList, List.mem_reverse] at hmem
        simpa using List.all_eq_true.mp hplain '.' hmem
      · apply String.toList_injective
        rw [← List.reverse_inj, ← hback, hdrop, hdot]
        simp
    next => cases h
  · rintro ⟨hending, stem, hstem, rfl⟩
    obtain ⟨c, rest, hstem⟩ : ∃ c rest, stem.toList.reverse = c :: rest := by
      apply List.exists_cons_of_ne_nil
      simpa using hstem
    have hback : (stem ++ "." ++ ending).toList.reverse =
        ending.toList.reverse ++ '.' :: c :: rest := by simp [hstem]
    have hplain : ∀ c ∈ ending.toList.reverse, (c != '.') = true := by
      intro c hc
      rw [bne_iff_ne]
      rintro rfl
      exact hending (List.mem_reverse.mp hc)
    rw [hback, List.takeWhile_append_of_pos hplain, List.dropWhile_append_of_pos hplain]
    simp

namespace Report
open Registry

variable {c : Conventions} {store : Store} {items : List Folder.Item} {schemas : List Schema}

/-- The item is a file that can be read as a document of the schema. Its name is more than an
ending. -/
structure IsDocumentOf (s : Schema) (item : Folder.Item) : Prop where
  name : ∃ stem, stem ≠ "" ∧ item.name = stem ++ ".json"
  text : ∃ text, item.text = some text ∧ Schema.read? text = some s

/-- The schemas of the documents among some items, in the order of the items. -/
inductive Documents : List Folder.Item → List Schema → Prop where
  | nil : Documents [] []
  | document {s : Schema} {item : Folder.Item} {items : List Folder.Item} {schemas : List Schema}
      (h : IsDocumentOf s item) (rest : Documents items schemas) :
      Documents (item :: items) (s :: schemas)
  | other {item : Folder.Item} {items : List Folder.Item} {schemas : List Schema}
      (h : ∀ s, ¬IsDocumentOf s item) (rest : Documents items schemas) :
      Documents (item :: items) schemas

theorem isDocument_iff {name : String} :
    isDocument name = true ↔ ∃ stem, stem ≠ "" ∧ name = stem ++ ".json" := by
  rw [isDocument, beq_iff_eq, Folder.extension?_eq_some_iff]
  simp [String.append_assoc]

theorem schemaIn?_eq_some_iff {item : Folder.Item} {s : Schema} :
    schemaIn? item = some s ↔ IsDocumentOf s item := by
  unfold schemaIn?
  split
  next h =>
    rw [Option.bind_eq_some_iff]
    exact ⟨fun htext => ⟨isDocument_iff.mp h, htext⟩, fun hdoc => hdoc.text⟩
  next h => exact iff_of_false nofun fun hdoc => h (isDocument_iff.mpr hdoc.name)

theorem documents_iff : Documents items schemas ↔ items.filterMap schemaIn? = schemas := by
  refine ⟨?_, ?_⟩
  · intro h
    induction h with
    | nil => rfl
    | document h _ ih => rw [List.filterMap_cons_some (schemaIn?_eq_some_iff.mpr h), ih]
    | other h _ ih =>
      rw [List.filterMap_cons_none, ih]
      exact Option.eq_none_iff_forall_ne_some.mpr fun s hs => h s (schemaIn?_eq_some_iff.mp hs)
  · rintro rfl
    induction items with
    | nil => exact .nil
    | cons item items ih =>
      cases hitem : schemaIn? item with
      | none =>
        rw [List.filterMap_cons_none hitem]
        refine .other (fun s hs => ?_) ih
        rw [schemaIn?_eq_some_iff.mpr hs] at hitem
        cases hitem
      | some s =>
        rw [List.filterMap_cons_some hitem]
        exact .document (schemaIn?_eq_some_iff.mp hitem) ih

/-- The line for what compiling a schema has come to: a summary of the prototype, or the error. -/
inductive IsEntry (id : SchemaId) : Except Failure Prototype → String → Prop where
  | summary (p : Prototype) : IsEntry id (.ok p) (String.join [id.text, " v", toString p.version,
      ": ", toString p.slots.length, " slots, keys ",
      "\x7b", ", ".intercalate (p.keySlotNames.map Text.quoted), "\x7d, bases ",
      "[", ", ".intercalate (p.bases.map fun b => "SchemaId(" ++ Text.quoted b.text ++ ")"), "]"])
  | compile (e : CompileError) : IsEntry id (.error (.compile e))
      (String.join [id.text, ": ", "Compilation error: ", e.wording])
  | coercion (e : CoercionError) : IsEntry id (.error (.coercion e))
      (String.join [id.text, ": ", "Coercion error: ", "Cannot coerce '", e.text, "' to ",
        e.target.display, ": ", e.reason])

theorem isEntry_entry (c : Conventions) (store : Store) (id : SchemaId) :
    IsEntry id (Prototype.compile c store id).outcome
      (entry id (Prototype.compile c store id).outcome) := by
  cases houtcome : (Prototype.compile c store id).outcome with
  | ok p =>
    have hsummary : IsEntry id (.ok p) _ := .summary p
    rw [← Prototype.schema_of_compile houtcome] at hsummary ⊢
    simpa [entry, summary, names, SchemaId.displayList, Text.joinWith, String.join_cons,
      String.append_assoc] using hsummary
  | error e =>
    obtain ⟨e, rfl⟩ | ⟨e, rfl⟩ := Prototype.compile_refuses store id e houtcome
    · have hcompile : IsEntry id (.error (.compile e)) _ := .compile e
      have hentry : entry id (.error (.compile e)) =
          id.text ++ ": " ++ ("Compilation error: " ++ e.message) := rfl
      rw [hentry, e.message_eq_wording]
      simpa [String.join_cons, String.append_assoc] using hcompile
    · have hcoercion : IsEntry id (.error (.coercion e)) _ := .coercion e
      have hentry : entry id (.error (.coercion e)) = id.text ++ ": " ++ ("Coercion error: " ++
          ("Cannot coerce '" ++ e.text ++ "' to " ++ e.target.display ++ ": " ++ e.reason)) := rfl
      rw [hentry]
      simpa [String.join_cons, String.append_assoc] using hcoercion

theorem IsEntry.unique {id : SchemaId} {x : Except Failure Prototype} {line line' : String}
    (h : IsEntry id x line) (h' : IsEntry id x line') : line = line' := by
  cases h <;> cases h' <;> rfl

/-- The text has these lines, in this order. Between them stands nothing but what the log writes
for remarks, of which so many have been made before. -/
inductive Shows (write : LogWriter) : Nat → List String → String → Prop where
  | nil (made : Nat) : Shows write made [] ""
  | remark {made : Nat} {lines : List String} {text : String} (r : Remark)
      (rest : Shows write (made + 1) lines text) : Shows write made lines (write made r ++ text)
  | line {made : Nat} {lines : List String} {text : String} (line : String)
      (rest : Shows write made lines text) :
      Shows write made (line :: lines) (line ++ "\n" ++ text)

theorem Shows.text_eq_of_silent {write : LogWriter} {made : Nat} {lines : List String}
    {text : String} (h : Shows write made lines text) (hwrite : ∀ made r, write made r = "") :
    text = String.join (lines.map (· ++ "\n")) := by
  induction h with
  | nil => rfl
  | remark r _ ih => rw [hwrite, String.empty_append, ih]
  | line line _ ih => rw [List.map_cons, String.join_cons, ih]

def entry? : Printed → Option String
  | .remark _ => none
  | .entry line => some line

def lines (r : Report) : List String := r.printed.filterMap entry?

theorem shows_textAfter (write : LogWriter) (made : Nat) (printed : List Printed) :
    Shows write made (printed.filterMap entry?) (textAfter write made printed) := by
  induction printed generalizing made with
  | nil => exact .nil made
  | cons x printed ih =>
    cases x with
    | remark r => exact .remark r (ih (made + 1))
    | entry line => exact .line line (ih made)

theorem lines_remarks_append (remarks : List Remark) (printed : List Printed) (failed : Bool) :
    (⟨remarks.map .remark ++ printed, failed⟩ : Report).lines = printed.filterMap entry? := by
  have hremarks : (remarks.map .remark).filterMap entry? = [] := by
    rw [List.filterMap_map, List.filterMap_eq_nil_iff]
    exact fun _ _ => rfl
  rw [lines, List.filterMap_append, hremarks, List.nil_append]

/-- What has been compiled for one schema does not show in the entry for the next. -/
theorem ofSchemas_eq {r : Registry} (h : Coherent c store r) (ids : List SchemaId) :
    ((ofSchemas ids).run r).1.lines =
        ids.map (fun id => entry id (Prototype.compile c store id).outcome) ∧
      ((ofSchemas ids).run r).1.failed =
        ids.any fun id => !(Prototype.compile c store id).outcome.isOk := by
  -- whatever the outcome for one schema, the registry is coherent when the next is compiled
  induction ids generalizing r with
  | nil => exact ⟨rfl, rfl⟩
  | cons id ids ih =>
    obtain ⟨hid, hr⟩ := answers_prototype id r h
    obtain ⟨hlines, hfailed⟩ := ih hr
    have hrun : ((ofSchemas (id :: ids)).run r).1 =
        ⟨((((prototype id).exec r).2.log.drop r.log.length).map .happened).map .remark ++
            .entry (entry id ((prototype id).exec r).1) ::
              ((ofSchemas ids).run ((prototype id).exec r).2).1.printed,
          !((prototype id).exec r).1.isOk ||
            ((ofSchemas ids).run ((prototype id).exec r).2).1.failed⟩ := rfl
    rw [hrun, hid, hfailed, List.map_cons, ← hlines, lines_remarks_append]
    exact ⟨rfl, rfl⟩

theorem exitCode_eq_one_iff {r : Report} : r.exitCode = 1 ↔ r.failed = true := by
  rw [exitCode]
  cases r.failed <;> decide

theorem exitCode_eq_zero_iff {r : Report} : r.exitCode = 0 ↔ r.failed = false := by
  rw [exitCode]
  cases r.failed <;> decide

/-- The same documents in another order are reported on with the same lines. -/
theorem ofItems_eq (folder : String) (h : (items.filterMap schemaIn?).Perm store.schemas) :
    (ofItems c folder (some items)).lines =
        store.ids.map (fun id => entry id (Prototype.compile c store id).outcome) ∧
      (ofItems c folder (some items)).failed =
        store.ids.any fun id => !(Prototype.compile c store id).outcome.isOk := by
  have hdistinct : ((Store.empty.schemas ++ items.filterMap schemaIn?).map (·.id)).Nodup :=
    (h.map (·.id)).nodup_iff.mpr store.distinct
  have hperm : (storeOf items).schemas.Perm store.schemas := by
    rw [storeOf, Store.schemas_foldl_keep hdistinct]
    exact h
  have houtcome : ∀ id, Prototype.compile c (storeOf items) id = Prototype.compile c store id :=
    Prototype.compile_eq_of_find?_eq (Store.find?_eq_of_perm hperm)
  have hreport := ofSchemas_eq (.empty c (storeOf items) []) (storeOf items).ids
  simp only [houtcome] at hreport
  rw [← Store.ids_eq_of_perm hperm, ofItems, lines_remarks_append]
  exact hreport

/-- For whatever stands in a folder, in any order, the output has a line for each document, in the
order of the identifiers, which says what its schema alone compiles to among all of them. The log
writes in between, unless it is silent. -/
theorem report_exact (form : TextForm) (settings : Settings) (store : Store) :
    ∃ ids lines, ids.Perm (store.schemas.map (·.id)) ∧ ids.Pairwise (·.text < ·.text) ∧
      List.Forall₂ (fun id line =>
        IsEntry id (Prototype.compile ⟨form, settings⟩ store id).outcome line) ids lines ∧
      ∀ (s : Surroundings) (items : List Folder.Item) (schemas : List Schema), s.form = form →
        s.settings = .ok settings → s.itemsIn? (settings.schemaDirectory.getD ".") = some items →
        Documents items schemas → schemas.Perm store.schemas →
          Shows (s.log (s.filter?.getD settings.logFilter)) 0 lines s.output.text ∧
          ((∀ made r, s.log (s.filter?.getD settings.logFilter) made r = "") →
            s.output.text = String.join (lines.map (· ++ "\n"))) ∧
          (s.output.exitCode = 1 ↔
            ∃ id ∈ ids, ∃ e, (Prototype.compile ⟨form, settings⟩ store id).outcome = .error e) ∧
          (s.output.exitCode = 0 ↔
            ∀ id ∈ ids, ∃ p, (Prototype.compile ⟨form, settings⟩ store id).outcome = .ok p) := by
  let c : Conventions := ⟨form, settings⟩
  refine ⟨store.ids, store.ids.map fun id => entry id (Prototype.compile c store id).outcome,
    store.ids_perm, store.ascending_ids, ?_, ?_⟩
  · rw [List.forall₂_map_right_iff, List.forall₂_same]
    exact fun id _ => isEntry_entry c store id
  · rintro s items schemas rfl hsettings hitems hdocuments hperm
    rw [← documents_iff.mp hdocuments] at hperm
    obtain ⟨hlines, hfailed⟩ := ofItems_eq (c := c) (folderOf settings) hperm
    have houtput : s.output = ⟨(ofItems c (folderOf settings) (some items)).textWith
        (s.log (s.filter?.getD settings.logFilter)), "",
        (ofItems c (folderOf settings) (some items)).exitCode⟩ := by
      rw [Surroundings.output, hsettings, ← hitems]
      rfl
    rw [houtput]
    have hshows := shows_textAfter (s.log (s.filter?.getD settings.logFilter)) 0
      (ofItems c (folderOf settings) (some items)).printed
    rw [← lines, hlines] at hshows
    refine ⟨hshows, hshows.text_eq_of_silent, ?_, ?_⟩
    · rw [exitCode_eq_one_iff, hfailed, List.any_eq_true]
      simp only [Bool.not_eq_true', isOk_eq_false_iff]
      rfl
    · rw [exitCode_eq_zero_iff, hfailed, List.any_eq_false]
      simp only [Bool.not_eq_true', Bool.not_eq_false, isOk_eq_true_iff]
      rfl

def bird : Schema where
  id := ⟨"bird"⟩
  version := 2
  slots := [{ name := "ring", valueType := .text }]
  keySlotNames := ["ring"]

def duck : Schema := { id := ⟨"duck"⟩, bases := [⟨"bird"⟩] }

/-- Eggs come from hens. -/
def egg : Schema := { id := ⟨"egg"⟩, bases := [⟨"hen"⟩] }

/-- Hens come from eggs. -/
def hen : Schema := { id := ⟨"hen"⟩, bases := [⟨"egg"⟩] }

def poultry : Store where
  schemas := [bird, duck, egg, hen]
  distinct := by decide

def birdText : String :=
  "\x7b\"id\": \"bird\", \"version\": 2, \"keySlotNames\": [\"ring\"], " ++
    "\"slots\": [\x7b\"name\": \"ring\", \"valueType\": \x7b\"type\": \"text\"\x7d\x7d]\x7d"

/-- Their documents among other files, a broken one and a folder. -/
def yard : Folder := [
  ("hen.json", "\x7b\"id\": \"hen\", \"baseSchemaIds\": [\"egg\"]\x7d"), ("notes.txt", "hens"),
  ("duck.json", "\x7b\"id\": \"duck\", \"baseSchemaIds\": [\"bird\"]\x7d"), ("goose.json", "\x7b"),
  ("old.json/", ""), ("egg.json", "\x7b\"id\": \"egg\", \"baseSchemaIds\": [\"hen\"]\x7d"),
  ("bird.json", birdText)]

/-- The yard, with a log that says of every remark how many there have been. -/
def aroundYard : Surroundings :=
  { Surroundings.ofFolder yard [] with log := fun _ made _ => toString made ++ " remarks\n" }

/-- What is reported of the yard. -/
def yardLines : List String := [
  "bird v2: 1 slots, keys \x7b\"ring\"\x7d, bases []",
  "duck v1: 1 slots, keys \x7b\"ring\"\x7d, bases [SchemaId(\"bird\")]",
  "egg: Compilation error: Schema egg inherits from itself through " ++
    "[SchemaId(\"egg\"), SchemaId(\"hen\"), SchemaId(\"egg\")]",
  "hen: Compilation error: Schema hen inherits from itself through " ++
    "[SchemaId(\"hen\"), SchemaId(\"egg\"), SchemaId(\"hen\")]"]

theorem report_exact_yard : ∃ items, aroundYard.settings = .ok {} ∧
    aroundYard.itemsIn? "." = some items ∧ items.length = 7 ∧
    Documents items [hen, duck, egg, bird] ∧
    Shows (aroundYard.log "info") 0 yardLines aroundYard.output.text ∧
    aroundYard.output.exitCode = 1 := by
  have hsettings : aroundYard.settings = .ok {} := by rfl
  obtain ⟨items, hitems, hlength, hdocuments⟩ : ∃ items, aroundYard.itemsIn? "." = some items ∧
      items.length = 7 ∧ items.filterMap schemaIn? = [hen, duck, egg, bird] :=
    ⟨_, rfl, by decide +kernel, by decide +kernel⟩
  rw [← documents_iff] at hdocuments
  obtain ⟨ids, lines, hids, hasc, hlines, hreport⟩ := report_exact .standard {} poultry
  obtain ⟨hshows, -, hfailure, -⟩ :=
    hreport aroundYard items _ rfl hsettings hitems hdocuments (by decide)
  obtain rfl : ids = [bird.id, duck.id, egg.id, hen.id] :=
    SchemaId.eq_of_perm_of_ascending hids hasc (by decide)
  have hentries := hlines.imp fun id line h => (isEntry_entry ⟨.standard, {}⟩ poultry id).unique h
  rw [← List.forall₂_map_left_iff, List.forall₂_eq_eq_eq] at hentries
  have htexts : [bird.id, duck.id, egg.id, hen.id].map
      (fun id => entry id (Prototype.compile ⟨.standard, {}⟩ poultry id).outcome) = yardLines := by
    decide +kernel
  have hhen : (Prototype.compile ⟨.standard, {}⟩ poultry hen.id).outcome = .error
      (.compile (.cyclicInheritance hen.id [hen.id, egg.id, hen.id])) := by
    with_unfolding_all rfl
  rw [← hentries, htexts] at hshows
  exact ⟨items, hsettings, hitems, hlength, hdocuments, hshows,
    hfailure.mpr ⟨hen.id, by simp, _, hhen⟩⟩

end Report

end HyperSchema
