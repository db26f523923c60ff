import HyperSchema.Proofs.Slot.Declared
import HyperSchema.Proofs.Value.Equality

namespace HyperSchema
open Decimal

/-- The checked remainder is missing only where it would be zero. -/
theorem Decimal.remainder?_eq_zero_iff {n d : Int} (hd : d ≠ 0) (hn : n.natAbs < 2 ^ 64) :
    (remainder? n d).getD 0 = 0 ↔ d ∣ n := by
  unfold remainder?
  split
  next h =>
    -- a quotient of more than 64 bits is one by plus or minus one
    have hlarge : 2 ^ 63 - 1 < n.tdiv d := h.resolve_left hd
    have hquotient : (n.tdiv d).natAbs = n.natAbs / d.natAbs := Int.natAbs_tdiv n d
    have hone : d.natAbs = 1 := by
      by_contra hne
      have hhalf : n.natAbs / d.natAbs ≤ n.natAbs / 2 :=
        Nat.div_le_div_left (by omega) (by decide)
      omega
    rw [Option.getD_none, ← Int.natAbs_dvd_natAbs, hone]
    exact iff_of_true rfl (Nat.one_dvd _)
  next => rw [Option.getD_some, Int.dvd_iff_tmod_eq_zero]

namespace Value

variable {v w : Value} {n k : Int}

theorem display_of_asInt? (h : v.asInt? = some n) : v.display = toString n := by
  cases v with
  | integer | long => cases h; rfl
  | _ => cases h

theorem beq_iff_of_asInt? (hv : v.asInt? = some n) (hw : w.asInt? = some k) :
    (w == v) = true ↔ n = k := by
  have hnumber : w.isNumber = true := by cases w <;> first | rfl | cases hw
  change beq w v = true ↔ n = k
  rw [beq_iff_of_isNumber (.inl hnumber), compareNumeric?_of_asInt? hw hv, Option.some.injEq,
    Int.compare_eq_eq, eq_comm]

end Value

/-- The integer is one that values of the type can have, where the type is integral. -/
def ValueType.HasInteger (type : ValueType) (n : Int) : Prop :=
  type = .integer → -2 ^ 31 ≤ n ∧ n < 2 ^ 31

instance (type : ValueType) (n : Int) : Decidable (type.HasInteger n) :=
  inferInstanceAs (Decidable (type = .integer → -2 ^ 31 ≤ n ∧ n < 2 ^ 31))

/-- Integers and plain text are read without the reader of JSON. -/
theorem coerce_standard_eq {type : ValueType} (h : type.isIntegral ∨ type = .text)
    (fault : String → String) (text : String) :
    coerce (.standardWith fault) text type = coerce .standard text type := by
  cases type with
  | integer | long | text =>
    simp only [coerce, TextForm.standard, TextForm.standardWith, Coercion.readScalar]
  | _ => simp [ValueType.isIntegral] at h

/-- The text is written for the integer. -/
def StandsFor (type : ValueType) (text : String) (k : Int) : Prop :=
  ∃ w, coerce .standard text type = .ok w ∧ w.asInt? = some k

theorem StandsFor.unique {type : ValueType} {text : String} {k k' : Int}
    (h : StandsFor type text k) (h' : StandsFor type text k') : k = k' := by
  obtain ⟨w, hw, hk⟩ := h
  obtain ⟨w', hw', hk'⟩ := h'
  cases hw.symm.trans hw'
  exact Option.some.inj (hk.symm.trans hk')

/-- The integer is one of the type and keeps to all limits. -/
@[mk_iff]
structure Constraints.Admits (c : Constraints) (type : ValueType) (n : Int) : Prop where
  range : type.HasInteger n
  disallowed : ∀ text ∈ c.disallowed, ∃ k, StandsFor type text k ∧ n ≠ k
  minimum : ∀ text, c.minimum = some text →
    ∃ k, StandsFor type text k ∧ (k < n ∨ k = n ∧ c.exclusiveMinimum = false)
  maximum : ∀ text, c.maximum = some text →
    ∃ k, StandsFor type text k ∧ (n < k ∨ n = k ∧ c.exclusiveMaximum = false)
  divisor : ∀ text, c.divisor = some text → ∃ k, StandsFor type text k ∧ k ∣ n

/-- The text is of a length within the limits, and is not one of those that are not allowed. -/
structure Constraints.AdmitsText (c : Constraints) (t : String) : Prop where
  disallowed : t ∉ c.disallowed
  minLength : ∀ least, c.minLength = some least → least ≤ t.length
  maxLength : ∀ most, c.maxLength = some most → t.length ≤ most

/-! What can be wrong with a value, and the failure that says so. -/

namespace Objection

variable (base : SlotBase) (c : Constraints) (v : Value) (e : ValidationError)

def disallowed : Prop :=
  (∃ text ∈ c.disallowed, ∃ w, coerce .standard text base.valueType = .ok w ∧ (w == v) = true) ∧
    e = .disallowed base.name v.display

def typeMismatch (fits : Prop) : Prop :=
  ¬fits ∧ e = .typeMismatch base.name base.valueType.display v.kind

/-- The value is an integer and there is a limit, which it breaks. -/
def breaksLimit (limit : Option String) (breaks : Int → Int → Prop)
    (error : String → String → ValidationError) : Prop :=
  ∃ n text k, v.asInt? = some n ∧ limit = some text ∧ StandsFor base.valueType text k ∧
    breaks n k ∧ e = error (toString n) (toString k)

def belowMinimum : Prop :=
  breaksLimit base v e c.minimum (fun n k => n < k ∨ n = k ∧ c.exclusiveMinimum = true)
    fun value limit => .belowMinimum base.name value limit c.exclusiveMinimum

def aboveMaximum : Prop :=
  breaksLimit base v e c.maximum (fun n k => k < n ∨ n = k ∧ c.exclusiveMaximum = true)
    fun value limit => .aboveMaximum base.name value limit c.exclusiveMaximum

def notDivisible : Prop :=
  breaksLimit base v e c.divisor (fun n k => ¬k ∣ n) (.notDivisible base.name)

def tooLong : Prop :=
  ∃ t most, v = .text t ∧ c.maxLength = some most ∧ most < t.length ∧
    e = .tooLong base.name t.length most

def tooShort : Prop :=
  ∃ t least, v = .text t ∧ c.minLength = some least ∧ t.length < least ∧
    e = .tooShort base.name t.length least

/-- For a slot that holds integers, in the order in which they count. -/
def toInteger : List (ValidationError → Prop) :=
  [(disallowed base c v ·),
    (typeMismatch base v · (∃ n, v.asInt? = some n ∧ base.valueType.HasInteger n)),
    (belowMinimum base c v ·), (aboveMaximum base c v ·), (notDivisible base c v ·)]

/-- For a slot that holds text, in the order in which they count. -/
def toText : List (ValidationError → Prop) :=
  [(disallowed base c v ·), (typeMismatch base v · (∃ t, v = .text t)), (tooLong base c v ·),
    (tooShort base c v ·)]

end Objection

namespace PropertySlot

variable {base : SlotBase} {d : SlotDeclaration} {s : PropertySlot} {v : Value} {n : Int}

/-- Only the type of the base counts, whatever type the declaration has. -/
theorem declared_of_compile {form : TextForm} (h : compile form base d = .ok s) :
    s.DeclaredBy form { d with valueType := base.valueType } :=
  compile_declaredBy rfl h

theorem name_of_compile {form : TextForm} (h : compile form base d = .ok s) :
    s.name = base.name := by
  rw [name, (compile_of_ok h).1]

/-- The form in which text is read counts only in what it reads for the type of the slot. -/
theorem compile_congr {form form' : TextForm} (h : ∀ text,
    coerce form text base.valueType = coerce form' text base.valueType) :
    compile form base d = compile form' base d := by
  have hcoerced : coerced form base = coerced form' base :=
    funext fun text => congrArg (liftFailure .coercion) (h text)
  have hnumber (what : String) :
      compileNumber form base what = compileNumber form' base what := by
    funext text
    cases text <;> simp only [compileNumber, hcoerced]
  simp only [compile, compileLimits, hcoerced, hnumber]

theorem exists_standsFor {text : String} {w : Value} (htype : base.valueType.isIntegral)
    (h : coerce .standard text base.valueType = .ok w) : ∃ k, w.asInt? = some k := by
  cases ht : base.valueType with
  | integer =>
    simp only [ht, coerce, TextForm.standard, TextForm.standardWith, Coercion.readScalar] at h
    split at h
    next => cases h; exact ⟨_, rfl⟩
    next => cases h
  | long =>
    simp only [ht, coerce, TextForm.standard, TextForm.standardWith, Coercion.readScalar] at h
    split at h
    next => cases h; exact ⟨_, rfl⟩
    next => cases h
  | _ => rw [ht] at htype; cases htype

/-- A check of one limit, if it fails exactly where the limit is broken. -/
theorem decides_breaksLimit {limit : Option String} {breaks : Int → Int → Prop}
    {error : String → String → ValidationError} {x : Except ValidationError Unit}
    (hn : v.asInt? = some n) (hnone : limit = none → x = .ok ())
    (hsome : ∀ text, limit = some text → ∃ k, StandsFor base.valueType text k ∧
      ∀ e, x = .error e ↔ breaks n k ∧ e = error (toString n) (toString k)) :
    Decides x [(Objection.breaksLimit base v · limit breaks error)] := by
  refine .single fun e => ?_
  cases hlimit : limit with
  | none => simp [hnone hlimit, Objection.breaksLimit]
  | some text =>
    obtain ⟨k, hk, hx⟩ := hsome text hlimit
    rw [hx]
    refine ⟨fun ⟨hbreaks, he⟩ => ⟨n, text, k, hn, rfl, hk, hbreaks, he⟩, ?_⟩
    rintro ⟨n', _, k', hn', ⟨⟩, hk', hbreaks, he⟩
    obtain rfl : n = n' := Option.some.inj (hn.symm.trans hn')
    obtain rfl := hk.unique hk'
    exact ⟨hbreaks, he⟩

theorem aboveMinimum_iff {b : Bound} {k : Int} (hn : v.asInt? = some n)
    (hk : b.value.asInt? = some k) :
    aboveMinimum v b = true ↔ ¬(n < k ∨ n = k ∧ b.exclusive = true) := by
  rw [aboveMinimum, Value.compareNumeric?_of_asInt? hn hk]
  obtain hlt | rfl | hgt := Int.lt_trichotomy n k
  · simp [Int.compare_eq_lt.mpr hlt, hlt]
  · simp
  · simp [Int.compare_eq_gt.mpr hgt, hgt.ne', hgt.le]

theorem belowMaximum_iff {b : Bound} {k : Int} (hn : v.asInt? = some n)
    (hk : b.value.asInt? = some k) :
    belowMaximum v b = true ↔ ¬(k < n ∨ n = k ∧ b.exclusive = true) := by
  rw [belowMaximum, Value.compareNumeric?_of_asInt? hn hk]
  obtain hlt | rfl | hgt := Int.lt_trichotomy n k
  · simp [Int.compare_eq_lt.mpr hlt, hlt.ne, hlt.le]
  · simp
  · simp [Int.compare_eq_gt.mpr hgt, hgt]

theorem decides_bound {limit : Option String} {bound : Option Bound} {exclusive : Bool}
    {breaks : Int → Int → Prop} {error : String → String → Bool → ValidationError}
    {x : Except ValidationError Unit} (keeps : Bound → Bool)
    (htype : base.valueType.isIntegral) (hn : v.asInt? = some n)
    (hbound : Option.Rel (fun text b => coerce .standard text base.valueType = .ok b.value ∧
      b.exclusive = exclusive) limit bound)
    (hkeeps : ∀ b k, b.value.asInt? = some k → b.exclusive = exclusive →
      (keeps b = true ↔ ¬breaks n k))
    (hnone : bound = none → x = .ok ())
    (hsome : ∀ b, bound = some b →
      x = if keeps b then .ok () else .error (error v.display b.value.display b.exclusive)) :
    Decides x [(Objection.breaksLimit base v · limit breaks (error · · exclusive))] := by
  refine decides_breaksLimit hn (fun hlimit => ?_) fun text htext => ?_
  · exact hnone (eq_none_of_rel (hlimit ▸ hbound))
  · obtain ⟨b, hb, hread, hexclusive⟩ := exists_of_rel (htext ▸ hbound)
    obtain ⟨k, hk⟩ := exists_standsFor htype hread
    refine ⟨k, ⟨_, hread, hk⟩, fun e => ?_⟩
    rw [hsome b hb, unless_eq_error_iff, hkeeps b k hk hexclusive, not_not, hexclusive,
      Value.display_of_asInt? hn, Value.display_of_asInt? hk]

/-- What is left to check of an integer once it is one of the slot's type. -/
def checkDivisible (s : PropertySlot) (v : Value) (n : Int) : Except ValidationError Unit :=
  match s.divisor.bind Value.asInt? with
  | some k => if (remainder? n k).getD 0 ≠ 0 then .error (s.notDivisible v) else .ok ()
  | none => .ok ()

theorem checkInteger_eq (hn : v.asInt? = some n) : s.checkInteger v =
    if ¬s.base.valueType.HasInteger n then .error (s.mismatch v)
    else s.checkMinimum v >>= fun _ => s.checkMaximum v >>= fun _ => s.checkDivisible v n := by
  have hrange : (s.base.valueType = .integer ∧
      ¬(Int32.minValue.toInt ≤ n ∧ n ≤ Int32.maxValue.toInt)) ↔
      ¬s.base.valueType.HasInteger n := by
    have hmin : Int32.minValue.toInt = -2 ^ 31 := rfl
    have hmax : Int32.maxValue.toInt = 2 ^ 31 - 1 := rfl
    rw [ValueType.HasInteger, hmin, hmax, Int.le_sub_one_iff, Classical.not_imp]
  unfold checkInteger
  rw [hn]
  dsimp only
  by_cases h : s.base.valueType.HasInteger n
  · rw [if_neg (not_not.mpr h), if_neg (mt hrange.mp (not_not.mpr h)), checkRange, bind_assoc,
      checkDivisible]
    cases s.divisor.bind Value.asInt? <;> rfl
  · rw [if_pos h, if_pos (hrange.mpr h)]
    rfl

theorem checkDivisor_of_compile {form : TextForm} (h : compile form base d = .ok s) :
    checkDivisor base s.divisor = .ok () := by
  simp only [compile, compileLimits, bind_eq_ok_iff] at h
  obtain ⟨t, ⟨_, -, _, -, -, -, divisor, -, ⟨⟩, hdivisor, -, -, -, -, _, -, ht⟩, h⟩ := h
  cases ht
  split at h
  next => cases h; exact hdivisor
  next =>
    obtain ⟨_, -, h⟩ := bind_eq_ok_iff.mp h
    split at h
    next => cases h; exact hdivisor
    next => cases h

theorem divisor_ne_zero {form : TextForm} {w : Value} {k : Int}
    (h : compile form base d = .ok s) (hw : s.divisor = some w) (hk : w.asInt? = some k) :
    k ≠ 0 := by
  rintro rfl
  have hdouble : w.asDouble? = some (Binary64.ofInt 0) := by
    cases w with
    | integer | long =>
      rw [Value.asDouble?, Option.some.inj hk]
    | _ => cases hk
  have hpassed := checkDivisor_of_compile h
  rw [checkDivisor, hw, Option.bind_some, hdouble] at hpassed
  cases hpassed

section Integral

variable (h : compile .standard base d = .ok s) (htype : base.valueType.isIntegral)
  (hn : v.asInt? = some n)
include h htype hn

theorem decides_checkMinimum :
    Decides (s.checkMinimum v) [(Objection.belowMinimum base d.constraints v ·)] := by
  refine decides_bound (aboveMinimum v) htype hn (declared_of_compile h).minimum
    (fun b k hk hexclusive => ?_) (fun hb => ?_) fun b hb => ?_
  · rw [aboveMinimum_iff hn hk, hexclusive]
  · rw [checkMinimum, hb]
  · rw [checkMinimum, hb, name_of_compile h]

theorem decides_checkMaximum :
    Decides (s.checkMaximum v) [(Objection.aboveMaximum base d.constraints v ·)] := by
  refine decides_bound (belowMaximum v) htype hn (declared_of_compile h).maximum
    (fun b k hk hexclusive => ?_) (fun hb => ?_) fun b hb => ?_
  · rw [belowMaximum_iff hn hk, hexclusive]
  · rw [checkMaximum, hb]
  · rw [checkMaximum, hb, name_of_compile h]

theorem decides_checkDivisible :
    Decides (s.checkDivisible v n) [(Objection.notDivisible base d.constraints v ·)] := by
  have hdeclared := declared_of_compile h
  refine decides_breaksLimit hn (fun hnone => ?_) fun text htext => ?_
  · have hdivisor := eq_none_of_rel (hnone ▸ hdeclared.divisor)
    rw [checkDivisible, hdivisor]
    rfl
  · obtain ⟨w, hw, hread⟩ := exists_of_rel (htext ▸ hdeclared.divisor)
    obtain ⟨k, hk⟩ := exists_standsFor htype hread
    have hzero := divisor_ne_zero h hw hk
    refine ⟨k, ⟨_, hread, hk⟩, fun e => ?_⟩
    rw [checkDivisible, hw, Option.bind_some, hk]
    dsimp only
    rw [ite_not, unless_eq_error_iff,
      remainder?_eq_zero_iff hzero (Value.natAbs_lt_of_asInt? hn), notDivisible, hw,
      name_of_compile h, Value.display_of_asInt? hn, Option.map_some, Option.getD_some,
      Value.display_of_asInt? hk]

end Integral

theorem decides_disallowed (h : compile .standard base d = .ok s) {x : Except ValidationError Unit}
    {objections : List (ValidationError → Prop)} (hx : Decides x objections) :
    Decides (if s.disallowed.any (· == v) then .error (.disallowed s.name v.display) else x)
      ((Objection.disallowed base d.constraints v ·) :: objections) := by
  have hdeclared := declared_of_compile h
  refine .ite (fun e => ?_) fun _ => hx
  rw [Objection.disallowed, name_of_compile h]
  refine and_congr_left fun _ => ?_
  rw [List.any_eq_true]
  refine exists_mem_iff_of_forall₂ (fun text w hread => ?_) hdeclared.disallowed
  have hvalue : coerce .standard text base.valueType = .ok w := hread
  simp [hvalue]

theorem decides_validate_integral (h : compile .standard base d = .ok s)
    (htype : base.valueType.isIntegral) (v : Value) :
    Decides (s.validate v) (Objection.toInteger base d.constraints v) := by
  have hinteger : s.validate v = if s.disallowed.any (· == v) then
      .error (.disallowed s.name v.display) else s.checkInteger v := by
    rw [← (compile_of_ok h).1] at htype
    rw [validate]
    cases ht : s.base.valueType <;> first | rfl | (rw [ht] at htype; cases htype)
  rw [hinteger]
  refine decides_disallowed h ?_
  cases hn : v.asInt? with
  | none =>
    rw [checkInteger, hn]
    refine .error fun e => ?_
    simp [Objection.typeMismatch, mismatch, name_of_compile h, (compile_of_ok h).1]
  | some n =>
    rw [checkInteger_eq hn, (compile_of_ok h).1]
    refine .ite (fun e => ?_) fun _ => ?_
    · simp [Objection.typeMismatch, mismatch, name_of_compile h, (compile_of_ok h).1]
    · exact .bind (decides_checkMinimum h htype hn)
        (.bind (decides_checkMaximum h htype hn) (decides_checkDivisible h htype hn))

theorem not_typeMismatch_iff {fits : Prop} :
    (∀ e, ¬Objection.typeMismatch base v e fits) ↔ fits := by
  simp [Objection.typeMismatch]

theorem not_breaksLimit_iff {limit : Option String} {breaks : Int → Int → Prop}
    {error : String → String → ValidationError} (hn : v.asInt? = some n)
    (hread : ∀ text, limit = some text → ∃ k, StandsFor base.valueType text k) :
    (∀ e, ¬Objection.breaksLimit base v e limit breaks error) ↔
      ∀ text, limit = some text → ∃ k, StandsFor base.valueType text k ∧ ¬breaks n k := by
  refine ⟨?_, ?_⟩
  · intro hnone text htext
    obtain ⟨k, hk⟩ := hread text htext
    exact ⟨k, hk, fun hbreaks => hnone _ ⟨n, text, k, hn, htext, hk, hbreaks, rfl⟩⟩
  · rintro hall e ⟨n', text, k, hn', htext, hk, hbreaks, -⟩
    obtain ⟨k', hk', hkeeps⟩ := hall text htext
    obtain rfl : n = n' := Option.some.inj (hn.symm.trans hn')
    exact hkeeps (hk'.unique hk ▸ hbreaks)

theorem not_disallowed_iff (h : compile .standard base d = .ok s)
    (htype : base.valueType.isIntegral) (hn : v.asInt? = some n) :
    (∀ e, ¬Objection.disallowed base d.constraints v e) ↔
      ∀ text ∈ d.constraints.disallowed, ∃ k, StandsFor base.valueType text k ∧ n ≠ k := by
  have hdeclared := declared_of_compile h
  have hread : ∀ text ∈ d.constraints.disallowed, ∃ w,
      coerce .standard text base.valueType = .ok w :=
    (forall_mem_iff_of_forall₂ (fun text w hw => iff_of_true ⟨w, hw⟩ trivial)
      hdeclared.disallowed).mpr fun _ _ => trivial
  refine ⟨?_, ?_⟩
  · intro hnone text htext
    obtain ⟨w, hw⟩ := hread text htext
    obtain ⟨k, hk⟩ := exists_standsFor htype hw
    refine ⟨k, ⟨w, hw, hk⟩, fun heq => ?_⟩
    exact hnone _ ⟨⟨text, htext, w, hw, (Value.beq_iff_of_asInt? hn hk).mpr heq⟩, rfl⟩
  · rintro hall e ⟨⟨text, htext, w, hw, hbeq⟩, -⟩
    obtain ⟨k, ⟨w', hw', hk⟩, hne⟩ := hall text htext
    cases hw.symm.trans hw'
    exact hne ((Value.beq_iff_of_asInt? hn hk).mp hbeq)

/-- Of an integer there is nothing to object to exactly when it keeps to all limits. -/
theorem not_toInteger_iff (h : compile .standard base d = .ok s)
    (htype : base.valueType.isIntegral) :
    (∀ P ∈ Objection.toInteger base d.constraints v, ∀ e, ¬P e) ↔
      ∃ n, v.asInt? = some n ∧ d.constraints.Admits base.valueType n := by
  have hdeclared := declared_of_compile h
  have hread {α : Type} {R : String → α → Prop} {limit : Option String} {o : Option α}
      (hrel : Option.Rel R limit o)
      (hR : ∀ text a, R text a → ∃ w, coerce .standard text base.valueType = .ok w) :
      ∀ text, limit = some text → ∃ k, StandsFor base.valueType text k := by
    rintro text rfl
    obtain ⟨a, -, ha⟩ := exists_of_rel hrel
    obtain ⟨w, hw⟩ := hR text a ha
    obtain ⟨k, hk⟩ := exists_standsFor htype hw
    exact ⟨k, w, hw, hk⟩
  have hminimum := hread hdeclared.minimum fun _ b hb => ⟨b.value, hb.1⟩
  have hmaximum := hread hdeclared.maximum fun _ b hb => ⟨b.value, hb.1⟩
  have hdivisor := hread hdeclared.divisor fun _ w hw => ⟨w, hw⟩
  have hbelow (n k : Int) (exclusive : Bool) : ¬(n < k ∨ n = k ∧ exclusive = true) ↔
      k < n ∨ k = n ∧ exclusive = false := by
    cases exclusive <;> simp <;> omega
  have habove (n k : Int) (exclusive : Bool) : ¬(k < n ∨ n = k ∧ exclusive = true) ↔
      n < k ∨ n = k ∧ exclusive = false := by
    cases exclusive <;> simp <;> omega
  simp only [Objection.toInteger, List.forall_mem_cons, List.not_mem_nil, false_implies,
    implies_true, and_true]
  cases hn : v.asInt? with
  | none => simp [not_typeMismatch_iff]
  | some n =>
    simp only [Objection.belowMinimum, Objection.aboveMaximum, Objection.notDivisible,
      not_typeMismatch_iff, not_disallowed_iff h htype hn, not_breaksLimit_iff hn hminimum,
      not_breaksLimit_iff hn hmaximum, not_breaksLimit_iff hn hdivisor, hbelow, habove, not_not,
      Option.some.injEq, exists_eq_left', Constraints.admits_iff]
    exact and_left_comm

/-- The two limits on the length of a text, one after the other. -/
def checkLongest (s : PropertySlot) (t : String) : Except ValidationError Unit :=
  match s.maxLength with
  | some most => if most < t.length then .error (.tooLong s.name t.length most) else .ok ()
  | none => .ok ()

def checkShortest (s : PropertySlot) (t : String) : Except ValidationError Unit :=
  match s.minLength with
  | some least => if t.length < least then .error (.tooShort s.name t.length least) else .ok ()
  | none => .ok ()

theorem checkText_eq (s : PropertySlot) (t : String) :
    s.checkText (.text t) = s.checkLongest t >>= fun _ => s.checkShortest t := by
  unfold checkText checkLongest checkShortest
  dsimp only
  cases s.maxLength with
  | none => cases s.minLength <;> rfl
  | some most =>
    dsimp only
    by_cases hlong : most < t.length
    · rw [if_pos hlong, if_pos hlong]
      rfl
    · rw [if_neg hlong, if_neg hlong]
      cases s.minLength <;> rfl

theorem decides_checkText {t : String} (h : compile .standard base d = .ok s) :
    Decides (s.checkText (.text t)) [(Objection.tooLong base d.constraints (.text t) ·),
      (Objection.tooShort base d.constraints (.text t) ·)] := by
  have hdeclared := declared_of_compile h
  have hlongest : s.maxLength = d.constraints.maxLength := hdeclared.maxLength
  have hshortest : s.minLength = d.constraints.minLength := hdeclared.minLength
  rw [checkText_eq]
  refine .bind (.single fun e => ?_) (.single fun e => ?_)
  · rw [checkLongest, hlongest]
    cases hmost : d.constraints.maxLength with
    | none => simp [Objection.tooLong, hmost]
    | some most =>
      dsimp only
      rw [← ite_not, unless_eq_error_iff]
      simp [Objection.tooLong, hmost, name_of_compile h]
  · rw [checkShortest, hshortest]
    cases hleast : d.constraints.minLength with
    | none => simp [Objection.tooShort, hleast]
    | some least =>
      dsimp only
      rw [← ite_not, unless_eq_error_iff]
      simp [Objection.tooShort, hleast, name_of_compile h]

theorem decides_validate_text (h : compile .standard base d = .ok s)
    (htype : base.valueType = .text) (v : Value) :
    Decides (s.validate v) (Objection.toText base d.constraints v) := by
  have htext : s.validate v = if s.disallowed.any (· == v) then
      .error (.disallowed s.name v.display) else s.checkText v := by
    rw [validate, (compile_of_ok h).1, htype]
  rw [htext]
  refine decides_disallowed h ?_
  by_cases hv : ∃ t, v = .text t
  · obtain ⟨t, rfl⟩ := hv
    exact .skip (not_typeMismatch_iff.mpr ⟨t, rfl⟩) (decides_checkText h)
  · have hmismatch : s.checkText v = .error (s.mismatch v) := by
      unfold checkText
      split
      next t => exact absurd ⟨t, rfl⟩ hv
      next => rfl
    rw [hmismatch]
    refine .error fun e => ?_
    rw [Objection.typeMismatch, and_iff_right hv, mismatch, name_of_compile h, (compile_of_ok h).1]

/-- To a text there is nothing to object exactly when it keeps to all limits. -/
theorem not_toText_iff (htype : base.valueType = .text) :
    (∀ P ∈ Objection.toText base d.constraints v, ∀ e, ¬P e) ↔
      ∃ t, v = .text t ∧ d.constraints.AdmitsText t := by
  have hequal (text t : String) : (Value.text text == .text t) = true ↔ text = t := by
    change (text == t) = true ↔ text = t
    exact beq_iff_eq
  simp only [Objection.toText, List.forall_mem_cons, List.not_mem_nil, false_implies,
    implies_true, and_true, not_typeMismatch_iff]
  refine ⟨?_, ?_⟩
  · rintro ⟨hdisallowed, ⟨t, rfl⟩, hlong, hshort⟩
    refine ⟨t, rfl, ?_, ?_, ?_⟩
    · intro ht
      refine hdisallowed _ ⟨⟨t, ht, .text t, ?_, (hequal t t).mpr rfl⟩, rfl⟩
      rw [htype]
      rfl
    · intro least hleast
      by_contra hlt
      exact hshort _ ⟨t, least, rfl, hleast, not_le.mp hlt, rfl⟩
    · intro most hmost
      by_contra hlt
      exact hlong _ ⟨t, most, rfl, hmost, not_le.mp hlt, rfl⟩
  · rintro ⟨t, rfl, hadmits⟩
    refine ⟨?_, ⟨t, rfl⟩, ?_, ?_⟩
    · rintro e ⟨⟨text, ht, w, hw, hbeq⟩, -⟩
      rw [htype] at hw
      cases hw
      exact hadmits.disallowed ((hequal text t).mp hbeq ▸ ht)
    · rintro e ⟨_, most, ⟨⟩, hmost, hlt, -⟩
      exact absurd (hadmits.maxLength most hmost) (not_le.mpr hlt)
    · rintro e ⟨_, least, ⟨⟩, hleast, hlt, -⟩
      exact absurd (hadmits.minLength least hleast) (not_le.mpr hlt)

/-- A slot for integers accepts exactly the integers of its type that keep to all limits declared,
and a slot for text exactly the texts that do. Other values are rejected with the first objection
that there is. -/
theorem validate_exact {fault : String → String} (h : compile (.standardWith fault) base d = .ok s)
    (v : Value) :
    (base.valueType.isIntegral →
      (s.validate v = .ok () ↔
        ∃ n, v.asInt? = some n ∧ d.constraints.Admits base.valueType n) ∧
      ∀ e, s.validate v = .error e ↔ IsFirst (Objection.toInteger base d.constraints v) e) ∧
    (base.valueType = .text →
      (s.validate v = .ok () ↔ ∃ t, v = .text t ∧ d.constraints.AdmitsText t) ∧
      ∀ e, s.validate v = .error e ↔ IsFirst (Objection.toText base d.constraints v) e) := by
  refine ⟨fun htype => ?_, fun htype => ?_⟩
  · rw [compile_congr (coerce_standard_eq (.inl htype) fault)] at h
    have hdecides := decides_validate_integral h htype v
    exact ⟨hdecides.eq_ok_iff.trans (not_toInteger_iff h htype), hdecides⟩
  · rw [compile_congr (coerce_standard_eq (.inr htype) fault)] at h
    have hdecides := decides_validate_text h htype v
    exact ⟨hdecides.eq_ok_iff.trans (not_toText_iff htype), hdecides⟩

/-- Any position but the first, up to a limit that is no double. -/
def position : SlotDeclaration where
  name := "position"
  valueType := .long
  constraints := {
    minimum := some "-9223372036854775808"
    maximum := some "9007199254740993"
    exclusiveMaximum := true
    divisor := some "-1"
    disallowed := ["0"] }

def mark : SlotDeclaration where
  name := "mark"
  valueType := .text
  constraints := { minLength := some 2, maxLength := some 4, disallowed := ["none"] }

def ofCursor (d : SlotDeclaration) : SlotBase :=
  (Declaration.value d).base ⟨"cursor"⟩ ⟨"cursor"⟩

theorem validate_exact_cursor : ∃ s t,
    compile .standard (ofCursor position) position = .ok s ∧
    compile .standard (ofCursor mark) mark = .ok t ∧
    (s.validate (.long Int64.minValue) = .ok () ∧ position.constraints.Admits .long (-2 ^ 63)) ∧
    IsFirst (Objection.toInteger (ofCursor position) position.constraints
      (.double (Binary64.ofInt 0))) (.disallowed "position" "0") ∧
    IsFirst (Objection.toInteger (ofCursor position) position.constraints
      (.long 9007199254740993))
      (.aboveMaximum "position" "9007199254740993" "9007199254740993" true) ∧
    (t.validate (.text "né") = .ok () ∧ mark.constraints.AdmitsText "né") := by
  have hposition : (compile .standard (ofCursor position) position).toOption.any fun s =>
      s.validate (.long Int64.minValue) = .ok () ∧
      s.validate (.double (Binary64.ofInt 0)) = .error (.disallowed "position" "0") ∧
      s.validate (.long 9007199254740993) =
        .error (.aboveMaximum "position" "9007199254740993" "9007199254740993" true) := by
    decide +kernel
  obtain ⟨s, hs, hvalidate⟩ := any_toOption_iff.mp hposition
  obtain ⟨hlowest, hzero, hhighest⟩ := of_decide_eq_true hvalidate
  obtain ⟨t, ht, hshort⟩ : ∃ t, compile .standard (ofCursor mark) mark = .ok t ∧
      t.validate (.text "né") = .ok () := by with_unfolding_all exact ⟨_, rfl, rfl⟩
  have hinteger (v : Value) := (validate_exact hs v).1 rfl
  obtain ⟨n, hn, hadmits⟩ := (hinteger _).1.mp hlowest
  have hlow : -2 ^ 63 = n := Option.some.inj hn
  obtain ⟨_, ⟨⟩, htext⟩ := ((validate_exact ht _).2 rfl).1.mp hshort
  exact ⟨s, t, hs, ht, ⟨hlowest, hlow ▸ hadmits⟩, ((hinteger _).2 _).mp hzero,
    ((hinteger _).2 _).mp hhighest, hshort, htext⟩

end PropertySlot

end HyperSchema
