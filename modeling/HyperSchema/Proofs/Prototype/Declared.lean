import HyperSchema.Proofs.Slot.Compile
import HyperSchema.Prototype.Compile

namespace HyperSchema

/-- What a schema may declare under a name. -/
inductive Declaration where
  | value (d : SlotDeclaration)
  | link (d : LinkDeclaration)

namespace Declaration

def name : Declaration → String
  | value d => d.name
  | link d => d.name

def kind : Declaration → SlotKind
  | value d => Prototype.kindOf d
  | link _ => .link

def base (owner declaring : SchemaId) : Declaration → SlotBase
  | value d => Prototype.valueSlotBase owner declaring d
  | link d => Prototype.linkSlotBase owner declaring d

@[simp] theorem base_owner (owner declaring : SchemaId) (d : Declaration) :
    (d.base owner declaring).owner = owner := by
  cases d <;> rfl

@[simp] theorem base_declaring (owner declaring : SchemaId) (d : Declaration) :
    (d.base owner declaring).declaring = declaring := by
  cases d <;> rfl

def valueType : Declaration → ValueType
  | value d => d.valueType
  | link _ => .link

def aliases : Declaration → List String
  | value d => d.aliases
  | link _ => []

/-- The relation of a link. -/
def relation? : Declaration → Option String
  | value _ => none
  | link d => some d.relation

/-- The link that a plain value is filled by. -/
def linkBinding? : Declaration → Option String
  | value d => if d.collection.isSome then none else d.linkBinding
  | link _ => none

def compile (c : Conventions) (owner declaring : SchemaId) : Declaration → Except Failure Slot
  | value d => Prototype.compileValueSlot c owner declaring d
  | link d =>
    liftFailure .compile
      ((LinkSlot.compile (Prototype.linkSlotBase owner declaring d) d).map .link)

end Declaration

namespace Slot

def relation? (s : Slot) : Option String := s.asLink?.map (·.relation)

def linkBinding? (s : Slot) : Option String := s.asProperty?.bind (·.linkBinding)

theorem base_of_asProperty? {s : Slot} {p : PropertySlot} (h : s.asProperty? = some p) :
    p.base = s.base := by
  cases s with
  | property t => cases h; rfl
  | collection t => cases h
  | link t => cases h

end Slot

theorem Declaration.compile_of_ok {c : Conventions} {owner declaring : SchemaId} {d : Declaration}
    {s : Slot} (h : d.compile c owner declaring = .ok s) :
    s.base = d.base owner declaring ∧ s.kind = d.kind ∧ s.relation? = d.relation? ∧
      s.linkBinding? = d.linkBinding? := by
  cases d with
  | value d =>
    change Prototype.compileValueSlot c owner declaring d = .ok s at h
    cases hc : d.collection with
    | some collection =>
      simp only [Prototype.compileValueSlot, hc, liftFailure_eq_ok_iff, map_eq_ok_iff] at h
      obtain ⟨t, ht, rfl⟩ := h
      obtain ⟨reference, -, -, -, rfl⟩ := CollectionSlot.compile_eq_ok_iff.mp ht
      refine ⟨rfl, ?_, rfl, ?_⟩
      · simp [kind, Prototype.kindOf, hc, Slot.kind]
      · simp [linkBinding?, hc, Slot.linkBinding?, Slot.asProperty?]
    | none =>
      simp only [Prototype.compileValueSlot, hc, map_eq_ok_iff] at h
      obtain ⟨t, ht, rfl⟩ := h
      obtain ⟨hb, hl⟩ := PropertySlot.compile_of_ok ht
      refine ⟨hb, ?_, rfl, ?_⟩
      · simp [kind, Prototype.kindOf, hc, Slot.kind]
      · simpa [linkBinding?, hc, Slot.linkBinding?, Slot.asProperty?] using hl
  | link d =>
    obtain ⟨t, ht, rfl⟩ := map_eq_ok_iff.mp (liftFailure_eq_ok_iff.mp h)
    obtain ⟨-, -, rfl⟩ := LinkSlot.compile_eq_ok_iff.mp ht
    exact ⟨rfl, rfl, rfl, rfl⟩

theorem Declaration.name_of_compile {c : Conventions} {owner declaring : SchemaId} {d : Declaration}
    {s : Slot} (h : d.compile c owner declaring = .ok s) : s.name = d.name := by
  obtain ⟨hb, -⟩ := compile_of_ok h
  rw [Slot.name, hb]
  cases d <;> rfl

theorem Declaration.aliases_of_compile {c : Conventions} {owner declaring : SchemaId}
    {d : Declaration} {s : Slot} (h : d.compile c owner declaring = .ok s) :
    s.base.aliases = Text.nameSet d.aliases := by
  obtain ⟨hb, -⟩ := compile_of_ok h
  rw [hb]
  cases d <;> rfl

theorem Declaration.valueType_of_compile {c : Conventions} {owner declaring : SchemaId}
    {d : Declaration} {s : Slot} (h : d.compile c owner declaring = .ok s) :
    s.base.valueType = d.valueType := by
  obtain ⟨hb, -⟩ := compile_of_ok h
  rw [hb]
  cases d <;> rfl

namespace Schema

def declarations (s : Schema) : List Declaration := s.slots.map .value ++ s.links.map .link

end Schema

/-- A declaration and the schema that declares it. -/
abbrev Declared := SchemaId × Declaration

namespace Declared

def name (x : Declared) : String := x.2.name

def kind (x : Declared) : SlotKind := x.2.kind

def compile (c : Conventions) (owner : SchemaId) (x : Declared) : Except Failure Slot :=
  x.2.compile c owner x.1

end Declared

/-- All declarations of a lineage, in its order. -/
def declared (lineage : List Schema) : List Declared :=
  lineage.flatMap fun s => s.declarations.map (s.id, ·)

theorem declared_cons (s : Schema) (l : List Schema) :
    declared (s :: l) = s.declarations.map (s.id, ·) ++ declared l := rfl

theorem mem_declared_iff {lineage : List Schema} {x : Declared} :
    x ∈ declared lineage ↔ ∃ s ∈ lineage, s.id = x.1 ∧ x.2 ∈ s.declarations := by
  simp only [declared, List.mem_flatMap, List.mem_map, Prod.ext_iff]
  refine ⟨?_, ?_⟩
  · rintro ⟨s, hs, d, hd, hid, rfl⟩
    exact ⟨s, hs, hid, hd⟩
  · intro ⟨s, hs, hid, hd⟩
    exact ⟨s, hs, x.2, hd, hid, rfl⟩

/-- The first declaration of each name. -/
def winners : List Declared → List Declared
  | [] => []
  | x :: xs => x :: (winners xs).filter (·.name ≠ x.name)

/-- Declarations of one name are all of one kind. -/
def SameKinds (xs : List Declared) : Prop :=
  ∀ x ∈ xs, ∀ y ∈ xs, x.name = y.name → x.kind = y.kind

theorem SameKinds.of_append {xs ys : List Declared} (h : SameKinds (xs ++ ys)) : SameKinds xs :=
  fun x hx y hy => h x (List.mem_append_left _ hx) y (List.mem_append_left _ hy)

theorem winners_append (xs ys : List Declared) :
    winners (xs ++ ys) = winners xs ++ (winners ys).filter (·.name ∉ xs.map Declared.name) := by
  induction xs with
  | nil =>
    have hall : (winners ys).filter (·.name ∉ [].map Declared.name) = winners ys :=
      List.filter_eq_self.mpr (by simp)
    rw [List.nil_append, hall, winners, List.nil_append]
  | cons x xs ih =>
    rw [List.cons_append, winners, ih, List.filter_append, List.filter_filter, winners,
      List.cons_append]
    congr 2
    apply List.filter_congr
    intro y _
    simp only [List.map_cons, List.mem_cons, not_or, Bool.decide_and, ne_eq]

theorem winners_concat (xs : List Declared) (x : Declared) :
    winners (xs ++ [x]) =
      if x.name ∈ xs.map Declared.name then winners xs else winners xs ++ [x] := by
  rw [winners_append]
  by_cases h : x.name ∈ xs.map Declared.name
  · simp [winners, h]
  · simp [winners, h]

theorem mem_winners_iff {xs : List Declared} {x : Declared} :
    x ∈ winners xs ↔ xs.find? (·.name = x.name) = some x := by
  induction xs with
  | nil => simp [winners]
  | cons y ys ih =>
    rw [winners, List.mem_cons, List.mem_filter, ih, List.find?_cons]
    by_cases h : y.name = x.name
    · simp [h, eq_comm]
    · have hne : x ≠ y := fun hxy => h (hxy ▸ rfl)
      simp [h, hne, Ne.symm h]

theorem mem_of_mem_winners {xs : List Declared} {x : Declared} (h : x ∈ winners xs) : x ∈ xs :=
  List.mem_of_find?_eq_some (mem_winners_iff.mp h)

/-- Every declared name has a declaration that counts. -/
theorem exists_winner {xs : List Declared} {x : Declared} (h : x ∈ xs) :
    ∃ w ∈ winners xs, w.name = x.name := by
  have hsome : (xs.find? (·.name = x.name)).isSome := by
    rw [List.find?_isSome]
    exact ⟨x, h, by simp⟩
  obtain ⟨w, hw⟩ := Option.isSome_iff_exists.mp hsome
  have hname : w.name = x.name := by simpa using List.find?_some hw
  exact ⟨w, mem_winners_iff.mpr (hname ▸ hw), hname⟩

theorem winner_unique {xs : List Declared} {x y : Declared} (hx : x ∈ winners xs)
    (hy : y ∈ winners xs) (h : x.name = y.name) : x = y := by
  rw [mem_winners_iff] at hx hy
  rw [h, hy] at hx
  exact (Option.some.inj hx).symm

theorem nodup_winners (xs : List Declared) : ((winners xs).map Declared.name).Nodup := by
  induction xs with
  | nil => exact List.nodup_nil
  | cons x xs ih =>
    rw [winners, List.map_cons, List.nodup_cons]
    refine ⟨?_, ih.sublist (List.filter_sublist.map _)⟩
    simp

end HyperSchema
