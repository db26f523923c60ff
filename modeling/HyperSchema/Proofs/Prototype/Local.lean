import HyperSchema.Proofs.Lineage.Local
import HyperSchema.Proofs.Registry.Transparent

namespace HyperSchema

namespace Prototype
open Lineage

variable {c : Conventions} {store store' : Store} {id : SchemaId}

/-- Compiling reads the store for the schema and for its bases. -/
theorem compile_congr {s : Schema} (hs : store.find? id = some s) (hs' : store'.find? id = some s)
    (hb : Lineage.bases store' s = Lineage.bases store s) :
    compile c store' id = compile c store id := by
  have hdraft : draft c store' id = draft c store id := by simp only [draft, hs, hs', hb]
  rw [compile, compile, hdraft]

theorem compile_eq_of_find?_eq (hsame : ∀ x, store'.find? x = store.find? x) (id : SchemaId) :
    compile c store' id = compile c store id := by
  have hdraft : draft c store' id = draft c store id := by
    simp only [draft, hsame, bases_congr hsame]
  rw [compile, compile, hdraft]

/-- What keeps its bases keeps its outcome. -/
theorem compile_eq_of_held
    (hfound : ∀ m, (compile c store id).outcome ≠ .error (.compile (.schemaNotFound m)))
    (hheld : ∀ b t, (b = id ∨ Derives store id b) → store.find? b = some t →
      store'.find? b = some t) :
    compile c store' id = compile c store id := by
  cases hs : store.find? id with
  | none => exact absurd (compile_of_not_kept hs) (hfound id)
  | some s =>
    obtain ⟨m, hm⟩ | hb := bases_stable hs hheld
    · exact absurd (compile_of_bases_error hs hm) (hfound m)
    · exact compile_congr hs (hheld id s (.inl rfl) hs) hb

theorem find?_storeAfter {t : Schema} (h : store.find? id = some t) (q : Request) :
    (q.storeAfter store).find? id = some t := by
  cases q with
  | keep s => exact Store.find?_keep h s
  | load text =>
    rw [Request.storeAfter]
    cases Schema.read? text with
    | none => exact h
    | some s => exact Store.find?_keep h s
  | _ => exact h

theorem find?_foldl_storeAfter {t : Schema} (h : store.find? id = some t) (qs : List Request) :
    (qs.foldl Request.storeAfter store).find? id = some t := by
  induction qs generalizing store with
  | nil => exact h
  | cons q qs ih => exact ih (find?_storeAfter h q)

/-- Unless a schema is missing, the outcome depends on what is held under the identifier and under
those that it derives from, and on nothing else. So requests, which never take away what is held,
cannot change it. -/
theorem compile_local
    (hfound : ∀ m, (compile c store id).outcome ≠ .error (.compile (.schemaNotFound m))) :
    (∀ store', (∀ b t, (b = id ∨ Derives store id b) → store.find? b = some t →
        store'.find? b = some t) → compile c store' id = compile c store id) ∧
      ∀ qs : List Request,
        compile c (qs.foldl Request.storeAfter store) id = compile c store id := by
  refine ⟨fun store' hheld => compile_eq_of_held hfound hheld, ?_⟩
  intro qs
  exact compile_eq_of_held hfound fun b t _ ht => find?_foldl_storeAfter ht qs

/-- An invoice is a letter that refers to a customer and to lines. A refund makes a link of what
letters have as text. -/
def letter : Schema := { id := ⟨"letter"⟩, slots := [{ name := "sender", valueType := .text }] }

def invoice : Schema where
  id := ⟨"invoice"⟩
  bases := [⟨"letter"⟩]
  slots := [{ name := "buyer", valueType := .model ⟨"customer"⟩ },
    { name := "lines", valueType := .list (.model ⟨"line"⟩), collection := some {} }]

def refund : Schema where
  id := ⟨"refund"⟩
  bases := [⟨"invoice"⟩]
  links := [{ name := "sender", relation := "sender", method := .get }]

def drafts : Store where
  schemas := [letter, invoice, refund, { id := ⟨"customer"⟩ }]
  distinct := by decide

/-- Customers are others here, and lines are known. -/
def ledger : Store where
  schemas := [{ id := ⟨"customer"⟩, bases := [⟨"person"⟩] }, refund, invoice, { id := ⟨"line"⟩ },
    letter]
  distinct := by decide

theorem compile_local_ledger :
    (∃ p, (compile ⟨.standard, {}⟩ drafts invoice.id).outcome = .ok p ∧
      compile ⟨.standard, {}⟩ ledger invoice.id = compile ⟨.standard, {}⟩ drafts invoice.id) ∧
    (∃ e, (compile ⟨.standard, {}⟩ drafts refund.id).outcome = .error e ∧
      compile ⟨.standard, {}⟩ ledger refund.id = compile ⟨.standard, {}⟩ drafts refund.id) ∧
    ∀ qs : List Request, compile ⟨.standard, {}⟩ (qs.foldl Request.storeAfter drafts) invoice.id =
      compile ⟨.standard, {}⟩ drafts invoice.id := by
  obtain ⟨p, hp⟩ : ∃ p, (compile ⟨.standard, {}⟩ drafts invoice.id).outcome = .ok p := by
    with_unfolding_all exact ⟨_, rfl⟩
  have he : (compile ⟨.standard, {}⟩ drafts refund.id).outcome =
      .error (.compile (.slotKindConflict ⟨"refund"⟩ "sender" .link .property)) := by
    with_unfolding_all rfl
  have hinvoice : IsLineage drafts invoice.id [invoice, letter] :=
    (isLineage_cons_iff (by decide)).mpr (by decide +kernel)
  have hrefund : IsLineage drafts refund.id [refund, invoice, letter] :=
    (isLineage_cons_iff (by decide)).mpr (by decide +kernel)
  have hfound : ∀ m, (compile ⟨.standard, {}⟩ drafts invoice.id).outcome ≠
    .error (.compile (.schemaNotFound m)) := by simp [hp]
  have hfound' : ∀ m, (compile ⟨.standard, {}⟩ drafts refund.id).outcome ≠
    .error (.compile (.schemaNotFound m)) := by simp [he]
  obtain ⟨hsame, hlater⟩ := compile_local hfound
  obtain ⟨hsame', -⟩ := compile_local hfound'
  exact ⟨⟨p, hp, hsame ledger (hinvoice.held (by decide))⟩,
    ⟨_, he, hsame' ledger (hrefund.held (by decide))⟩, hlater⟩

end Prototype

end HyperSchema
