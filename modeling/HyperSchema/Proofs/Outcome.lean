import HyperSchema.Failure
import Mathlib.Data.List.Forall2

namespace HyperSchema

variable {ε : Type} {α β : Type}

theorem bind_eq_ok_iff {x : Except ε α} {f : α → Except ε β} {b : β} :
    (x >>= f) = .ok b ↔ ∃ a, x = .ok a ∧ f a = .ok b := by
  cases x with
  | ok a => simp [bind, Except.bind]
  | error e => simp [bind, Except.bind]

theorem map_eq_ok_iff {x : Except ε α} {f : α → β} {b : β} :
    x.map f = .ok b ↔ ∃ a, x = .ok a ∧ f a = b := by
  cases x with
  | ok a => simp [Except.map]
  | error e => simp [Except.map]

theorem liftFailure_eq_ok_iff {f : ε → Failure} {x : Except ε α} {a : α} :
    liftFailure f x = .ok a ↔ x = .ok a := by
  refine ⟨?_, ?_⟩
  · intro h
    cases x with
    | ok b => cases h; rfl
    | error e => cases h
  · rintro rfl
    rfl

theorem isOk_eq_true_iff {x : Except ε α} : x.isOk = true ↔ ∃ a, x = .ok a := by
  cases x <;> simp [Except.isOk, Except.toBool]

theorem isOk_eq_false_iff {x : Except ε α} : x.isOk = false ↔ ∃ e, x = .error e := by
  cases x <;> simp [Except.isOk, Except.toBool]

theorem unless_eq_error_iff {c : Prop} [Decidable c] {a e : ε} :
    (if c then .ok () else .error a : Except ε Unit) = .error e ↔ ¬c ∧ e = a := by
  by_cases hc : c
  · simp [hc]
  · simp [hc, eq_comm]

theorem any_toOption_iff {x : Except ε α} {p : α → Bool} :
    x.toOption.any p = true ↔ ∃ a, x = .ok a ∧ p a = true := by
  cases x <;> simp [Except.toOption]

theorem forM_eq_ok_iff {f : α → Except ε Unit} {l : List α} :
    l.forM f = .ok () ↔ ∀ a ∈ l, f a = .ok () := by
  induction l with
  | nil => simp [pure, Except.pure]
  | cons a l ih =>
    change (f a >>= fun _ => l.forM f) = .ok () ↔ _
    rw [bind_eq_ok_iff, List.forall_mem_cons, ← ih]
    exact ⟨fun ⟨_, ha, hl⟩ => ⟨ha, hl⟩, fun ⟨ha, hl⟩ => ⟨(), ha, hl⟩⟩

theorem mapM_eq_ok_iff {f : α → Except ε β} {l : List α} {r : List β} :
    l.mapM f = .ok r ↔ List.Forall₂ (fun a b => f a = .ok b) l r := by
  induction l generalizing r with
  | nil => cases r <;> simp [pure, Except.pure]
  | cons a l ih =>
    simp only [List.mapM_cons, bind_eq_ok_iff, List.forall₂_cons_left_iff, ih]
    refine ⟨?_, ?_⟩
    · rintro ⟨b, hb, bs, hbs, h⟩
      cases h
      exact ⟨b, bs, hb, hbs, rfl⟩
    · rintro ⟨b, bs, hb, hbs, rfl⟩
      exact ⟨b, hb, bs, hbs, rfl⟩

theorem exists_mapM_eq_ok_iff {f : α → Except ε β} {l : List α} :
    (∃ r, l.mapM f = .ok r) ↔ ∀ a ∈ l, ∃ b, f a = .ok b := by
  induction l with
  | nil => simp [pure, Except.pure]
  | cons a l ih =>
    simp only [List.mapM_cons, bind_eq_ok_iff, List.forall_mem_cons, ← ih]
    refine ⟨?_, ?_⟩
    · rintro ⟨_, b, hb, bs, hbs, -⟩
      exact ⟨⟨b, hb⟩, bs, hbs⟩
    · rintro ⟨⟨b, hb⟩, bs, hbs⟩
      exact ⟨_, b, hb, bs, hbs, rfl⟩

/-- Loops that do the same to each member end the same way, be it with a failure. -/
theorem mapM_congr {f g : α → Except ε β} {l : List α} (h : ∀ a ∈ l, f a = g a) :
    l.mapM f = l.mapM g := by
  induction l with
  | nil => rfl
  | cons a l ih =>
    obtain ⟨ha, hl⟩ := List.forall_mem_cons.mp h
    rw [List.mapM_cons, List.mapM_cons, ha, ih hl]

/-- What one loop makes of each member, and another of that, comes in the same order. -/
theorem forall₂_of_mapM_mapM {ε' γ : Type} {f : α → Except ε β} {g : β → Except ε' γ}
    {R : α → γ → Prop} (hR : ∀ a b r, f a = .ok b → g b = .ok r → R a r) {l : List α}
    {made : List β} {r : List γ} (hf : l.mapM f = .ok made) (hg : made.mapM g = .ok r) :
    List.Forall₂ R l r := by
  rw [mapM_eq_ok_iff] at hf
  induction hf generalizing r with
  | nil =>
    cases hg
    exact .nil
  | cons ha _ ih =>
    simp only [List.mapM_cons, bind_eq_ok_iff] at hg
    obtain ⟨b, hb, rest, hrest, hr⟩ := hg
    cases hr
    exact .cons (hR _ _ _ ha hb) (ih hrest)

/-- A loop through the states that belong to what is done runs to the end when each step may be
made. -/
theorem foldlM_eq_ok_iff {f : β → α → Except ε β} {may : α → Prop} (state : List α → β)
    (hstep : ∀ done a b, f (state done) a = .ok b ↔ may a ∧ b = state (done ++ [a]))
    (done l : List α) {b : β} :
    l.foldlM f (state done) = .ok b ↔ (∀ a ∈ l, may a) ∧ b = state (done ++ l) := by
  induction l generalizing done with
  | nil =>
    rw [List.foldlM_nil, List.append_nil]
    refine ⟨?_, ?_⟩
    · intro h
      cases h
      exact ⟨by simp, rfl⟩
    · rintro ⟨-, rfl⟩
      rfl
  | cons a l ih =>
    rw [List.foldlM_cons, bind_eq_ok_iff, List.forall_mem_cons, List.append_cons]
    refine ⟨?_, ?_⟩
    · rintro ⟨_, ha, hl⟩
      obtain ⟨hmay, rfl⟩ := (hstep done a _).mp ha
      obtain ⟨hall, rfl⟩ := (ih _).mp hl
      exact ⟨⟨hmay, hall⟩, rfl⟩
    · rintro ⟨⟨hmay, hall⟩, rfl⟩
      exact ⟨_, (hstep done a _).mpr ⟨hmay, rfl⟩, (ih _).mpr ⟨hall, rfl⟩⟩

/-- Members kept are made into what is kept of the outcome. -/
theorem mapM_filter_eq_ok {f : α → Except ε β} {keeps : α → Bool} {keeps' : β → Bool}
    (hkeeps : ∀ a b, f a = .ok b → keeps a = keeps' b) {l : List α} {r : List β}
    (h : l.mapM f = .ok r) : (l.filter keeps).mapM f = .ok (r.filter keeps') := by
  rw [mapM_eq_ok_iff] at h ⊢
  exact List.rel_filter (fun a b hab => Bool.eq_iff_iff.mp (hkeeps a b hab)) h

/-- What holds of all members on one side holds of their counterparts. -/
theorem forall_mem_iff_of_forall₂ {R : α → β → Prop} {P : α → Prop} {Q : β → Prop}
    (hR : ∀ a b, R a b → (P a ↔ Q b)) {l : List α} {m : List β} (h : List.Forall₂ R l m) :
    (∀ a ∈ l, P a) ↔ ∀ b ∈ m, Q b := by
  induction h with
  | nil => simp
  | cons hab _ ih => rw [List.forall_mem_cons, List.forall_mem_cons, hR _ _ hab, ih]

theorem exists_mem_of_forall₂ {R : α → β → Prop} {l : List α} {m : List β}
    (h : List.Forall₂ R l m) {b : β} (hb : b ∈ m) : ∃ a ∈ l, R a b := by
  induction h with
  | nil => cases hb
  | @cons a _ _ _ hab _ ih =>
    obtain rfl | hb := List.mem_cons.mp hb
    · exact ⟨a, List.mem_cons_self, hab⟩
    · obtain ⟨a', ha', hab'⟩ := ih hb
      exact ⟨a', List.mem_cons_of_mem _ ha', hab'⟩

theorem exists_mem_iff_of_forall₂ {R : α → β → Prop} {P : α → Prop} {Q : β → Prop}
    (hR : ∀ a b, R a b → (P a ↔ Q b)) {l : List α} {m : List β} (h : List.Forall₂ R l m) :
    (∃ a ∈ l, P a) ↔ ∃ b ∈ m, Q b := by
  induction h with
  | nil => simp
  | cons hab _ ih => rw [List.exists_mem_cons_iff, List.exists_mem_cons_iff, hR _ _ hab, ih]

theorem eq_none_of_rel {R : α → β → Prop} {b : Option β} (h : Option.Rel R none b) : b = none := by
  cases h
  rfl

theorem exists_of_rel {R : α → β → Prop} {a : α} {b : Option β} (h : Option.Rel R (some a) b) :
    ∃ b', b = some b' ∧ R a b' := by
  cases h with
  | some h => exact ⟨_, rfl, h⟩

theorem exists_of_rel_some {R : α → β → Prop} {a : Option α} {b : β}
    (h : Option.Rel R a (some b)) : ∃ a', R a' b := by
  cases h with
  | some h => exact ⟨_, h⟩

/-- A loop that may fail only in what it makes of each member makes all of it first. -/
theorem foldlM_map_eq_ok_iff {γ : Type} {f : α → Except ε β} {g : γ → β → γ} {l : List α}
    {start r : γ} : l.foldlM (fun acc a => (f a).map (g acc)) start = .ok r ↔
      ∃ made, l.mapM f = .ok made ∧ r = made.foldl g start := by
  simp only [mapM_eq_ok_iff]
  induction l generalizing start with
  | nil => simp [pure, Except.pure, eq_comm]
  | cons a l ih =>
    simp only [List.foldlM_cons, bind_eq_ok_iff, map_eq_ok_iff, ih, List.forall₂_cons_left_iff]
    refine ⟨?_, ?_⟩
    · rintro ⟨_, ⟨b, hb, rfl⟩, made, hmade, rfl⟩
      exact ⟨b :: made, ⟨b, made, hb, hmade, rfl⟩, rfl⟩
    · rintro ⟨_, ⟨b, made, hb, hmade, rfl⟩, rfl⟩
      exact ⟨_, ⟨b, hb, rfl⟩, made, hmade, rfl⟩

/-- All failures of a step are of one sort. -/
def Refuses (P : ε → Prop) (x : Except ε α) : Prop := ∀ e, x = .error e → P e

namespace Refuses

variable {P : ε → Prop}

theorem ok {a : α} : Refuses P (.ok a) := fun _ h => nomatch h

theorem error {e : ε} (h : P e) : Refuses P (.error e : Except ε α) := fun _ h' => by
  cases h'
  exact h

theorem bind {x : Except ε α} {f : α → Except ε β} (hx : Refuses P x)
    (hf : ∀ a, Refuses P (f a)) : Refuses P (x >>= f) := by
  cases x with
  | ok a => exact hf a
  | error e => exact error (hx e rfl)

theorem map {x : Except ε α} {f : α → β} (hx : Refuses P x) : Refuses P (x.map f) := by
  cases x with
  | ok a => exact ok
  | error e => exact error (hx e rfl)

theorem lift {P : Failure → Prop} {f : ε → Failure} {x : Except ε α} (h : ∀ e, P (f e)) :
    Refuses P (liftFailure f x) := by
  cases x with
  | ok a => exact ok
  | error e => exact error (h e)

theorem lift_of_imp {Q : ε → Prop} {P : Failure → Prop} {f : ε → Failure} {x : Except ε α}
    (hx : Refuses Q x) (h : ∀ e, Q e → P (f e)) : Refuses P (liftFailure f x) := by
  cases x with
  | ok a => exact ok
  | error e => exact error (h e (hx e rfl))

theorem forM {f : α → Except ε Unit} (hf : ∀ a, Refuses P (f a)) (l : List α) :
    Refuses P (l.forM f) := by
  induction l with
  | nil => exact ok
  | cons a l ih => exact bind (hf a) fun _ => ih

theorem mapM {f : α → Except ε β} (hf : ∀ a, Refuses P (f a)) (l : List α) :
    Refuses P (l.mapM f) := by
  induction l with
  | nil => exact ok
  | cons a l ih =>
    rw [List.mapM_cons]
    exact bind (hf a) fun _ => bind ih fun _ => ok

theorem foldlM {f : β → α → Except ε β} (hf : ∀ b a, Refuses P (f b a)) (b : β) (l : List α) :
    Refuses P (l.foldlM f b) := by
  induction l generalizing b with
  | nil => exact ok
  | cons a l ih =>
    rw [List.foldlM_cons]
    exact bind (hf b a) ih

end Refuses

section Objections

variable {P : ε → Prop} {objections more : List (ε → Prop)} {x y : Except ε Unit}

/-- Of some objections, in order, the first that can be made at all is made with this failure. -/
def IsFirst (objections : List (ε → Prop)) (e : ε) : Prop :=
  ∃ before P after, objections = before ++ P :: after ∧ P e ∧ ∀ Q ∈ before, ∀ e', ¬Q e'

/-- A check that fails with the first objection, and passes when there is none. -/
def Decides (x : Except ε Unit) (objections : List (ε → Prop)) : Prop :=
  ∀ e, x = .error e ↔ IsFirst objections e

theorem not_isFirst_nil (e : ε) : ¬IsFirst [] e := by
  rintro ⟨before, P, after, h, -⟩
  simp at h

theorem isFirst_cons {e : ε} :
    IsFirst (P :: objections) e ↔ P e ∨ (∀ e', ¬P e') ∧ IsFirst objections e := by
  refine ⟨?_, ?_⟩
  · rintro ⟨before, Q, after, h, hQ, hbefore⟩
    obtain ⟨rfl, h⟩ | ⟨rest, rfl, rfl⟩ := List.cons_eq_append_iff.mp h
    · obtain ⟨rfl, -⟩ := List.cons.inj h
      exact .inl hQ
    · obtain ⟨hP, hrest⟩ := List.forall_mem_cons.mp hbefore
      exact .inr ⟨hP, rest, Q, after, rfl, hQ, hrest⟩
  · rintro (hP | ⟨hP, before, Q, after, rfl, hQ, hbefore⟩)
    · exact ⟨[], P, objections, rfl, hP, by simp⟩
    · exact ⟨P :: before, Q, after, rfl, hQ, List.forall_mem_cons.mpr ⟨hP, hbefore⟩⟩

theorem forall_not_isFirst_iff : (∀ e, ¬IsFirst objections e) ↔ ∀ P ∈ objections, ∀ e, ¬P e := by
  induction objections with
  | nil => simp [not_isFirst_nil]
  | cons P objections ih =>
    simp only [isFirst_cons, not_or, not_and, List.forall_mem_cons, ← ih]
    refine ⟨fun h => ⟨fun e => (h e).1, fun e => (h e).2 fun e' => (h e').1⟩, fun h e => ?_⟩
    exact ⟨h.1 e, fun _ => h.2 e⟩

theorem isFirst_append {e : ε} : IsFirst (objections ++ more) e ↔
    IsFirst objections e ∨ (∀ P ∈ objections, ∀ e', ¬P e') ∧ IsFirst more e := by
  induction objections with
  | nil => simp [not_isFirst_nil]
  | cons P objections ih =>
    rw [List.cons_append, isFirst_cons, isFirst_cons, ih, List.forall_mem_cons]
    tauto

namespace Decides

theorem eq_ok_iff (h : Decides x objections) : x = .ok () ↔ ∀ P ∈ objections, ∀ e, ¬P e := by
  rw [← forall_not_isFirst_iff]
  simp only [← h _]
  cases x with
  | ok u => simp
  | error e => simp

theorem single (h : ∀ e, x = .error e ↔ P e) : Decides x [P] := fun e => by
  rw [isFirst_cons, h, or_iff_left fun hnil => not_isFirst_nil e hnil.2]

theorem error {e : ε} (hP : ∀ e', P e' ↔ e' = e) : Decides (.error e) (P :: objections) :=
  fun e' => by
    rw [isFirst_cons, hP, or_iff_left fun hnone => hnone.1 e ((hP e).mpr rfl), Except.error.injEq,
      eq_comm]

theorem skip (hP : ∀ e, ¬P e) (hx : Decides x objections) : Decides x (P :: objections) :=
  fun e => by rw [isFirst_cons, or_iff_right (hP e), and_iff_right hP, hx]

theorem ite {e : ε} {c : Prop} [Decidable c] (hP : ∀ e', P e' ↔ c ∧ e' = e)
    (hx : ¬c → Decides x objections) :
    Decides (if c then .error e else x) (P :: objections) := fun e' => by
  rw [isFirst_cons]
  simp only [hP]
  by_cases hc : c
  · simp [hc, eq_comm]
  · simp [hc, hx hc e']

/-- One check after the other, the second when the first passes. -/
theorem bind (hx : Decides x objections) (hy : Decides y more) :
    Decides (x >>= fun _ => y) (objections ++ more) := fun e => by
  rw [isFirst_append, ← hx e, ← hx.eq_ok_iff, ← hy e]
  cases x with
  | ok u => simp [Bind.bind, Except.bind]
  | error e => simp [Bind.bind, Except.bind]

end Decides

end Objections

end HyperSchema
