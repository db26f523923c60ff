import HyperSchema.Proofs.Outcome
import HyperSchema.Slot.Property
import HyperSchema.Slot.Reference

namespace HyperSchema

theorem PropertySlot.compileLimits_of_ok {form : TextForm} {base : SlotBase} {d : SlotDeclaration}
    {s : PropertySlot} (h : compileLimits form base d = .ok s) :
    s.base = base ∧ s.linkBinding = d.linkBinding := by
  simp only [compileLimits, bind_eq_ok_iff] at h
  obtain ⟨minimum, -, maximum, -, -, -, divisor, -, -, -, -, -, -, -, disallowed, -, h⟩ := h
  cases h
  exact ⟨rfl, rfl⟩

theorem PropertySlot.compile_of_ok {form : TextForm} {base : SlotBase} {d : SlotDeclaration}
    {s : PropertySlot} (h : compile form base d = .ok s) :
    s.base = base ∧ s.linkBinding = d.linkBinding := by
  simp only [compile, bind_eq_ok_iff] at h
  obtain ⟨t, ht, h⟩ := h
  obtain ⟨hb, hl⟩ := compileLimits_of_ok ht
  split at h
  next => cases h; exact ⟨hb, hl⟩
  next text _ =>
    obtain ⟨value, -, h⟩ := bind_eq_ok_iff.mp h
    split at h
    next => cases h; exact ⟨hb, hl⟩
    next => cases h

/-- The fault lies in how schemas derive from each other, and not in what they declare. -/
def CompileError.OfLineage : CompileError → Prop
  | .schemaNotFound _ | .cyclicInheritance .. => True
  | _ => False

/-- A declaration that is wrong, or a text in it that does not read as a value. -/
def Failure.OfDeclarations (e : Failure) : Prop :=
  (∃ x, e = .compile x ∧ ¬x.OfLineage) ∨ ∃ x, e = .coercion x

theorem PropertySlot.compile_refuses (form : TextForm) (base : SlotBase) (d : SlotDeclaration) :
    Refuses Failure.OfDeclarations (compile form base d) := by
  have hinvalid (reason : String) : (invalid base reason).OfDeclarations := .inl ⟨_, rfl, id⟩
  have hcoerced (text : String) : Refuses Failure.OfDeclarations (coerced form base text) :=
    .lift fun e => .inr ⟨e, rfl⟩
  have hnumber (what : String) (text : Option String) :
      Refuses Failure.OfDeclarations (compileNumber form base what text) := by
    unfold compileNumber
    split
    · exact .ok
    · split
      · exact .map (hcoerced _)
      · exact .error (hinvalid _)
  have hbounds (least most : Option Value) :
      Refuses Failure.OfDeclarations (checkBounds base least most) := by
    unfold checkBounds
    split
    · split
      · exact .error (hinvalid _)
      · exact .ok
    · exact .ok
  have hdivisor (divisor : Option Value) :
      Refuses Failure.OfDeclarations (checkDivisor base divisor) := by
    unfold checkDivisor
    split
    · exact .error (hinvalid _)
    · exact .ok
  have hordered (what : String) (least most : Option Nat) :
      Refuses Failure.OfDeclarations (checkOrdered base what least most) := by
    unfold checkOrdered
    split
    · split
      · exact .error (hinvalid _)
      · exact .ok
    · exact .ok
  -- the limits in the order in which they are compiled, and the default last
  refine .bind ?limits fun s => ?default
  case limits =>
    exact .bind (hnumber _ _) fun _ => .bind (hnumber _ _) fun _ => .bind (hbounds _ _) fun _ =>
      .bind (hnumber _ _) fun _ => .bind (hdivisor _) fun _ => .bind (hordered _ _ _) fun _ =>
        .bind (hordered _ _ _) fun _ => .bind (.mapM hcoerced _) fun _ => .ok
  case default =>
    cases d.default with
    | none => exact .ok
    | some text =>
      refine .bind (hcoerced text) fun value => ?_
      split
      · exact .ok
      · exact .error (hinvalid _)

theorem CollectionSlot.compile_eq_ok_iff {base : SlotBase} {d : SlotDeclaration}
    {collection : CollectionDeclaration} {limit : Option Nat} {s : CollectionSlot} :
    compile base d collection limit = .ok s ↔
      ∃ reference, base.valueType = .list (.model reference) ∧ d.linkBinding = none ∧
        collection.limit ≠ some 0 ∧
        s = {
          base
          reference
          linkRelation := collection.linkRelation
          limit := collection.limit <|> limit
          and := collection.and
          or := collection.or } := by
  unfold compile
  split
  next reference hb =>
    cases d.linkBinding with
    | some link => simp [throw, throwThe, MonadExceptOf.throw, bind, Except.bind]
    | none =>
      by_cases hc : collection.limit = some 0
      · simp [hc, throw, throwThe, MonadExceptOf.throw, bind, Except.bind]
      · simp [hb, hc, pure, Except.pure, eq_comm]
  next hb =>
    simp only [throw, throwThe, MonadExceptOf.throw, reduceCtorEq, false_iff]
    intro ⟨reference, hr, _⟩
    exact hb reference hr

theorem CollectionSlot.compile_refuses (base : SlotBase) (d : SlotDeclaration)
    (collection : CollectionDeclaration) (limit : Option Nat) :
    Refuses (¬·.OfLineage) (compile base d collection limit) := by
  unfold compile
  split
  next =>
    cases d.linkBinding with
    | some link => exact .error id
    | none =>
      by_cases hc : collection.limit = some 0
      · rw [if_pos hc]
        exact .error id
      · rw [if_neg hc]
        exact .ok
  next => exact .error id

theorem LinkSlot.compile_eq_ok_iff {base : SlotBase} {d : LinkDeclaration} {s : LinkSlot} :
    compile base d = .ok s ↔
      (d.embedded → d.method.isSafe) ∧ (d.bindings ≠ [] → schemaOf? d.responseType ≠ none) ∧
        s = {
          base
          method := d.method
          relation := d.relation
          request := schemaOf? d.requestType
          response := schemaOf? d.responseType
          embedded := d.embedded
          bindings := d.bindings } := by
  unfold compile
  dsimp only [throw, throwThe, MonadExceptOf.throw, bind, Except.bind, pure, Except.pure]
  by_cases he : d.embedded ∧ ¬d.method.isSafe
  · rw [if_pos he]
    simp only [reduceCtorEq, false_iff]
    exact fun h => he.2 (h.1 he.1)
  · rw [if_neg he]
    by_cases hr : d.bindings ≠ [] ∧ schemaOf? d.responseType = none
    · rw [if_pos hr]
      simp only [reduceCtorEq, false_iff]
      exact fun h => h.2.1 hr.1 hr.2
    · rw [if_neg hr, Except.ok.injEq]
      refine ⟨?_, ?_⟩
      · intro h
        have hsafe : d.embedded → d.method.isSafe := by simpa using he
        exact ⟨hsafe, fun hb hn => hr ⟨hb, hn⟩, h.symm⟩
      · rintro ⟨-, -, rfl⟩
        rfl

theorem LinkSlot.compile_refuses (base : SlotBase) (d : LinkDeclaration) :
    Refuses (¬·.OfLineage) (compile base d) := by
  unfold compile
  dsimp only [throw, throwThe, MonadExceptOf.throw, bind, Except.bind, pure, Except.pure]
  by_cases he : d.embedded ∧ ¬d.method.isSafe
  · rw [if_pos he]
    exact .error id
  · rw [if_neg he]
    by_cases hr : d.bindings ≠ [] ∧ schemaOf? d.responseType = none
    · rw [if_pos hr]
      exact .error id
    · rw [if_neg hr]
      exact .ok

end HyperSchema
