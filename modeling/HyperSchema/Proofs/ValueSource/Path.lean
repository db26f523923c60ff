import HyperSchema.Proofs.ValueSource

namespace HyperSchema

namespace Value

/-- What stands in an object for a name: its own member, else what it gives as `getName`, else what
it gives as `isName`. A member that is null stands there like any other. -/
inductive StandsUnder (name : String) (object : Json) : Json → Prop where
  | plain {j : Json} (h : object.member? name = some j) : StandsUnder name object j
  | get {j : Json} (hplain : object.member? name = none)
      (h : object.member? ("get" ++ Text.capitalize name) = some j) : StandsUnder name object j
  | is {j : Json} (hplain : object.member? name = none)
      (hget : object.member? ("get" ++ Text.capitalize name) = none)
      (h : object.member? ("is" ++ Text.capitalize name) = some j) : StandsUnder name object j

/-- From a model to what is in a slot, and from a native object to what stands there for the name,
unless it is null. No other value leads anywhere. -/
inductive Hop (name : String) : Value → Value → Prop where
  | slot {i : Nat} {m : Model} {v : Value} (h : m.slotValue? name = some v) :
      Hop name (.model i m) v
  | member {members : List (String × Json)} {j : Json} {v : Value}
      (hj : StandsUnder name (.object members) j) (hv : ofJson? j = some v) :
      Hop name (.native (.object members)) v

/-- Where there is no hop: an empty slot of a model, a native object with nothing or with null under
the name, and every value that is neither of the two. -/
inductive DeadEnd (name : String) : Value → Prop where
  | slot {i : Nat} {m : Model} (h : m.slotValue? name = none) : DeadEnd name (.model i m)
  | absent {members : List (String × Json)} (h : ∀ j, ¬StandsUnder name (.object members) j) :
      DeadEnd name (.native (.object members))
  | null {members : List (String × Json)} (h : StandsUnder name (.object members) .null) :
      DeadEnd name (.native (.object members))
  | other {v : Value} (hmodel : ∀ i m, v ≠ .model i m)
      (hobject : ∀ members, v ≠ .native (.object members)) : DeadEnd name v

/-- Hop after hop, one for each name. -/
inductive Reaches : Value → List String → Value → Prop where
  | refl (v : Value) : Reaches v [] v
  | step {v u w : Value} {name : String} {rest : List String} (hop : Hop name v u)
      (onward : Reaches u rest w) : Reaches v (name :: rest) w

variable {v w : Value} {name : String}

theorem ofJson?_eq_none_iff {j : Json} : ofJson? j = none ↔ j = .null := by
  cases j with
  | integer n =>
    rw [ofJson?]
    split <;> simp
  | _ => simp [ofJson?]

theorem findSome?_accessorNames_eq_some_iff {object j : Json} :
    (accessorNames name).findSome? (fun n => object.member? n) = some j ↔
      StandsUnder name object j := by
  simp only [accessorNames, List.findSome?_cons, List.findSome?_nil]
  refine ⟨?_, ?_⟩
  · intro h
    split at h
    next hplain => exact .plain (hplain.trans h)
    next hplain =>
      split at h
      next hget => exact .get hplain (hget.trans h)
      next hget =>
        split at h
        next his => exact .is hplain hget (his.trans h)
        next => cases h
  · rintro (h | ⟨hplain, h⟩ | ⟨hplain, hget, h⟩)
    · rw [h]
    · rw [hplain, h]
    · rw [hplain, hget, h]

theorem findSome?_accessorNames_eq_none_iff {object : Json} :
    (accessorNames name).findSome? (fun n => object.member? n) = none ↔
      ∀ j, ¬StandsUnder name object j := by
  simp only [Option.eq_none_iff_forall_ne_some, ne_eq, findSome?_accessorNames_eq_some_iff]

theorem member?_eq_some_iff : v.member? name = some w ↔ Hop name v w := by
  refine ⟨?_, ?_⟩
  · intro h
    unfold member? at h
    split at h
    next => exact .slot h
    next =>
      obtain ⟨j, hj, hw⟩ := Option.bind_eq_some_iff.mp h
      exact .member (findSome?_accessorNames_eq_some_iff.mp hj) hw
    next => cases h
  · rintro (h | ⟨hj, hw⟩)
    · exact h
    · rw [member?, findSome?_accessorNames_eq_some_iff.mpr hj]
      exact hw

theorem member?_eq_none_iff : v.member? name = none ↔ DeadEnd name v := by
  refine ⟨?_, ?_⟩
  · intro h
    unfold member? at h
    split at h
    next => exact .slot h
    next members =>
      cases hj : (accessorNames name).findSome? fun n => (Json.object members).member? n with
      | none => exact .absent (findSome?_accessorNames_eq_none_iff.mp hj)
      | some j =>
        rw [hj, Option.bind_some, ofJson?_eq_none_iff] at h
        exact .null (findSome?_accessorNames_eq_some_iff.mp (h ▸ hj))
    next hmodel hobject => exact .other hmodel hobject
  · rintro (h | h | h | ⟨hmodel, hobject⟩)
    · exact h
    · rw [member?, findSome?_accessorNames_eq_none_iff.mpr h, Option.bind_none]
    · rw [member?, findSome?_accessorNames_eq_some_iff.mpr h]
      rfl
    · unfold member?
      split
      next => exact absurd rfl (hmodel _ _)
      next => exact absurd rfl (hobject _)
      next => rfl

end Value

namespace ValueSource
open Value

variable {v w : Value} {path front back : List String}

theorem follow_cons (v : Value) (name : String) (rest : List String) :
    follow (some v) (name :: rest) = follow (v.member? name) rest := rfl

theorem follow_none (path : List String) : follow none path = none := by
  induction path with
  | nil => rfl
  | cons name rest ih => exact ih

theorem follow_append (v : Value) (front back : List String) :
    follow (some v) (front ++ back) =
      (follow (some v) front).bind fun u => follow (some u) back := by
  rw [follow, List.foldl_append]
  change follow (follow (some v) front) back = _
  cases follow (some v) front with
  | none => exact follow_none back
  | some u => rfl

theorem follow_eq_some_iff : follow (some v) path = some w ↔ Reaches v path w := by
  induction path generalizing v with
  | nil =>
    refine ⟨?_, ?_⟩
    · intro h
      cases h
      exact .refl _
    · intro h
      cases h
      rfl
  | cons name rest ih =>
    rw [follow_cons]
    refine ⟨?_, ?_⟩
    · intro h
      cases hu : v.member? name with
      | none =>
        rw [hu, follow_none] at h
        cases h
      | some u =>
        rw [hu, ih] at h
        exact .step (member?_eq_some_iff.mp hu) h
    · intro h
      cases h with
      | step hop onward => rw [member?_eq_some_iff.mpr hop, ih.mpr onward]

/-- Nothing is found when a dead end is met, be it at the last hop. -/
theorem follow_eq_none_iff : follow (some v) path = none ↔ ∃ front name back u,
    path = front ++ name :: back ∧ Reaches v front u ∧ DeadEnd name u := by
  refine ⟨?_, ?_⟩
  · intro h
    induction path generalizing v with
    | nil => cases h
    | cons name rest ih =>
      rw [follow_cons] at h
      cases hu : v.member? name with
      | none => exact ⟨[], name, rest, v, rfl, .refl v, member?_eq_none_iff.mp hu⟩
      | some u =>
        rw [hu] at h
        obtain ⟨front, last, back, w, rfl, hreach, hlast⟩ := ih h
        exact ⟨name :: front, last, back, w, rfl, .step (member?_eq_some_iff.mp hu) hreach, hlast⟩
  · rintro ⟨front, name, back, u, rfl, hreach, hlast⟩
    rw [follow_append, follow_eq_some_iff.mpr hreach, Option.bind_some, follow_cons,
      member?_eq_none_iff.mpr hlast, follow_none]

/-- What a path gives from a start: the value that its hops lead to, or nothing when there is no
such value, and the same wherever the path is taken apart. -/
structure LeadsTo (start : Value) (path : List String) (r : Option Value) : Prop where
  reached : ∀ v, r = some v ↔ Reaches start path v
  missing : r = none ↔ ∃ front name back u,
    path = front ++ name :: back ∧ Reaches start front u ∧ DeadEnd name u
  split : ∀ front back, path = front ++ back →
    r = (follow (some start) front).bind fun u => follow (some u) back

theorem leadsTo_follow (start : Value) (path : List String) :
    LeadsTo start path (follow (some start) path) where
  reached _ := follow_eq_some_iff
  missing := follow_eq_none_iff
  split front back h := by rw [h, follow_append]

theorem origin_of_compile {form : TextForm} {reference referrer : Prototype} {name : String}
    {d : SourceDeclaration} {source : ValueSource}
    (h : compile form reference name referrer d = .ok source) (hd : d.kind = .referrerSlot) :
    compilePath referrer d.text = .ok source.origin := by
  obtain ⟨s, origin, -, horigin, rfl⟩ := compile_eq_ok_iff.mp h
  simpa only [compileOrigin, hd, liftFailure_eq_ok_iff] using horigin

/-- A source that is a path reads it off every referrer without failing. The path is what its text
is split into at the dots, begins at the referrer and has the real name of a slot as its first
hop. -/
theorem paths_compose {form : TextForm} {reference referrer : Prototype} {name : String}
    {d : SourceDeclaration} {source : ValueSource}
    (h : compile form reference name referrer d = .ok source) (hd : d.kind = .referrerSlot) :
    ∃ first rest real, segments d.text = first :: rest ∧ (∀ part ∈ first :: rest, part ≠ "") ∧
      referrer.realName? first = some real ∧
      ∀ (form' : TextForm) (m : Model) (i : Nat), ∃ r, source.resolve form' m = .ok r ∧
        LeadsTo (.model i m) (real :: rest) r := by
  obtain ⟨first, rest, real, hsegments, hparts, hreal, horigin⟩ :=
    compilePath_eq_ok_iff.mp (origin_of_compile h hd)
  refine ⟨first, rest, real, hsegments, hparts, hreal, ?_⟩
  intro form' m i
  refine ⟨follow (some (.model i m)) (real :: rest), ?_, leadsTo_follow _ _⟩
  rw [resolve, horigin, follow_cons]
  rfl

/-- A letter is from a person, whose record is kept elsewhere. -/
def letter : Schema where
  id := ⟨"letter"⟩
  slots := [{ name := "sender", valueType := .model ⟨"person"⟩, aliases := ["from"] },
    { name := "label", valueType := .text }]

def letters : Store where
  schemas := [letter]
  distinct := by decide

def clerk : Model where
  schema := ⟨"person"⟩
  uri := none
  slots := [("record", .native (.object [("getLevel", .null), ("isActive", .bool true),
    ("isLevel", .integer 3)]))]
  hints := {}

def note : Model := ⟨letter.id, none, [("sender", .model 1 clerk)], {}⟩

/-- A path that starts with an alias and ends at `isActive`, and one that ends at `getLevel`, where
null hides `isLevel`. -/
theorem paths_compose_letter : ∃ p active level,
    (Prototype.compile ⟨.standard, {}⟩ letters letter.id).outcome = .ok p ∧
    compile .standard p "label" p ⟨.referrerSlot, "from. record.active "⟩ = .ok active ∧
    compile .standard p "label" p ⟨.referrerSlot, "sender.record.level"⟩ = .ok level ∧
    active.resolve .standard note = .ok (some (.boolean true)) ∧
    Reaches (.model 0 note) ["sender", "record", "active"] (.boolean true) ∧
    level.resolve .standard note = .ok none ∧
    ∃ front name back u, ["sender", "record", "level"] = front ++ name :: back ∧
      Reaches (.model 0 note) front u ∧ DeadEnd name u := by
  obtain ⟨p, active, level, hp, hactive, hlevel, hfrom, hsender, htrue, hnone⟩ :
      ∃ p active level,
        (Prototype.compile ⟨.standard, {}⟩ letters letter.id).outcome = .ok p ∧
        compile .standard p "label" p ⟨.referrerSlot, "from. record.active "⟩ = .ok active ∧
        compile .standard p "label" p ⟨.referrerSlot, "sender.record.level"⟩ = .ok level ∧
        p.realName? "from" = some "sender" ∧ p.realName? "sender" = some "sender" ∧
        active.resolve .standard note = .ok (some (.boolean true)) ∧
        level.resolve .standard note = .ok none := by
    with_unfolding_all exact ⟨_, _, _, rfl, rfl, rfl, rfl, rfl, rfl, rfl⟩
  obtain ⟨first, rest, real, hsegments, -, hreal, hwalk⟩ := paths_compose hactive rfl
  obtain ⟨first', rest', real', hsegments', -, hreal', hwalk'⟩ := paths_compose hlevel rfl
  obtain ⟨rfl, rfl⟩ : first = "from" ∧ rest = ["record", "active"] := by
    simpa using hsegments.symm.trans (by decide : _ = ["from", "record", "active"])
  obtain ⟨rfl, rfl⟩ : first' = "sender" ∧ rest' = ["record", "level"] := by
    simpa using hsegments'.symm.trans (by decide : _ = ["sender", "record", "level"])
  obtain rfl : "sender" = real := Option.some.inj (hfrom.symm.trans hreal)
  obtain rfl : "sender" = real' := Option.some.inj (hsender.symm.trans hreal')
  obtain ⟨r, hr, hleads⟩ := hwalk .standard note 0
  obtain ⟨r', hr', hleads'⟩ := hwalk' .standard note 0
  have hreached := (hleads.reached _).mp (Except.ok.inj (hr.symm.trans htrue))
  have hmissing := hleads'.missing.mp (Except.ok.inj (hr'.symm.trans hnone))
  exact ⟨p, active, level, hp, hactive, hlevel, htrue, hreached, hnone, hmissing⟩

end ValueSource

end HyperSchema
