import HyperSchema.Proofs.Prototype.Indexes
import HyperSchema.Proofs.Slot.Order

namespace HyperSchema.Prototype

variable {c : Conventions} {store : Store} {id : SchemaId} {p : Prototype}

theorem nodup_names_of_compile (hp : (compile c store id).outcome = .ok p) :
    (p.slots.map Slot.name).Nodup := by
  obtain ⟨lineage, hl, -⟩ := bases_of_compile hp
  have hindexed := indexed_of_compile hp hl
  rw [hindexed.listed]
  exact hindexed.distinct

theorem mem_sortedSlots_iff (hp : (compile c store id).outcome = .ok p) {n : String} {s : Slot} :
    s ∈ p.sortedSlots ∧ s.name = n ↔ slotNamed? p.slots n = some s := by
  obtain ⟨lineage, hl, -⟩ := bases_of_compile hp
  rw [slotNamed?_iff_mem hp hl, sortedSlots, (Slot.perm_sort p.slots).mem_iff]

/-- The order of slots is total, and what it finds equal is what is the same. The slots of a
prototype are listed by it, each of the table once and before the next, and from whatever order the
table may give them in the list is this one. -/
theorem slots_canonical :
    (∀ a b : Slot, b.order a = (a.order b).swap) ∧
    (∀ a b c : Slot, (a.order b).isLE → (b.order c).isLE → (a.order c).isLE) ∧
    (∀ a b : Slot, a.order b = .eq ↔ a.isSame b) ∧
    ∀ {c store id p}, (compile c store id).outcome = .ok p →
      p.sortedSlots.Perm p.slots ∧
      (∀ n s, s ∈ p.sortedSlots ∧ s.name = n ↔ slotNamed? p.slots n = some s) ∧
      p.sortedSlots.Pairwise (fun a b => a.order b = .lt) ∧
      ∀ slots, slots.Perm p.slots → Slot.sort slots = p.sortedSlots := by
  refine ⟨?_, ?_, ?_, ?_⟩
  · intro a b
    exact Std.OrientedCmp.eq_swap
  · intro a b c
    exact Std.TransCmp.isLE_trans
  · intro a b
    exact Slot.order_eq_eq_iff
  · intro c store id p hp
    have hnames := nodup_names_of_compile hp
    refine ⟨Slot.perm_sort p.slots, ?_, Slot.pairwise_sort hnames, ?_⟩
    · intro n s
      exact mem_sortedSlots_iff hp
    · intro slots hperm
      exact Slot.sort_eq_of_perm hperm hnames

/-- A garden with rows of wet and dry places, beds of its own and a link. -/
def garden : Schema where
  id := ⟨"garden"⟩
  slots := [
    { name := "rows", valueType := .list (.list (.choice ["wet", "dry"])) },
    { name := "beds", valueType := .listOfModels ⟨"bed"⟩, collection := some {} },
    { name := "area", valueType := .double }]
  links := [{ name := "self", relation := "self", method := .get }]

def gardens : Store where
  schemas := [garden]
  distinct := by decide

theorem slots_canonical_garden : ∃ p, (compile ⟨.standard, {}⟩ gardens garden.id).outcome = .ok p ∧
    p.slots.map Slot.name = ["rows", "beds", "area", "self"] ∧
    (Slot.sort p.slots.reverse).map Slot.name = ["area", "rows", "beds", "self"] ∧
    p.sortedSlots.Pairwise (fun a b => a.order b = .lt) ∧
    Slot.sort p.slots.reverse = p.sortedSlots := by
  obtain ⟨p, rows, beds, area, self, hp, hslots, hnames, hinOrder, hordered⟩ :
      ∃ p rows beds area self, (compile ⟨.standard, {}⟩ gardens garden.id).outcome = .ok p ∧
      p.slots = [rows, beds, area, self] ∧
      p.slots.map Slot.name = ["rows", "beds", "area", "self"] ∧
      [area, rows, beds, self].map Slot.name = ["area", "rows", "beds", "self"] ∧
      [area, rows, beds, self].Pairwise (fun a b => a.order b = .lt) := by
    with_unfolding_all exact ⟨_, _, _, _, _, rfl, rfl, rfl, rfl, by decide +kernel⟩
  obtain ⟨-, -, -, hcanonical⟩ := slots_canonical
  obtain ⟨-, -, hpairwise, hunique⟩ := hcanonical hp
  have hsame := hunique _ (List.reverse_perm p.slots)
  have hmoved : ([rows, beds] ++ area :: [self]).Perm (area :: ([rows, beds] ++ [self])) :=
    List.perm_middle
  have hperm : [area, rows, beds, self].Perm p.slots := hslots ▸ hmoved.symm
  have hsorted : p.sortedSlots = [area, rows, beds, self] :=
    Slot.sort_eq_of_pairwise hperm (nodup_names_of_compile hp) hordered
  exact ⟨p, hp, hnames, by rw [hsame, hsorted, hinOrder], hpairwise, hsame⟩

end HyperSchema.Prototype
