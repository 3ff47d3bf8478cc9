import WordingAudit.World

/-!
The value of a traced computation and the actions it records, taken apart at each bind. A step that
may fail stops at its first error, and its record then ends where the error arose.
-/

namespace WordingAudit

namespace Result

variable {α β ε δ : Type}

instance decidableEq [DecidableEq ε] [DecidableEq α] : DecidableEq (Except ε α)
  | .ok a, .ok b => decidable_of_iff (a = b) ⟨congrArg Except.ok, Except.ok.inj⟩
  | .error d, .error e => decidable_of_iff (d = e) ⟨congrArg Except.error, Except.error.inj⟩
  | .ok _, .error _ => isFalse nofun
  | .error _, .ok _ => isFalse nofun

theorem bind_eq_ok {x : Except ε α} {f : α → Except ε β} {b : β} :
    x.bind f = .ok b ↔ ∃ a, x = .ok a ∧ f a = .ok b := by
  cases x with
  | ok a => exact ⟨fun h => ⟨a, rfl, h⟩, fun ⟨c, hc, h⟩ => by cases hc; exact h⟩
  | error e => exact ⟨nofun, fun ⟨c, hc, _⟩ => by cases hc⟩

theorem mapError_eq_ok {x : Except ε α} {f : ε → δ} {a : α} :
    x.mapError f = .ok a ↔ x = .ok a := by
  cases x with
  | ok b => exact ⟨fun h => congrArg Except.ok (Except.ok.inj h), fun h => by cases h; rfl⟩
  | error e => exact ⟨nofun, nofun⟩

theorem map_eq_ok {x : Except ε α} {f : α → β} {b : β} :
    x.map f = .ok b ↔ ∃ a, x = .ok a ∧ f a = b := by
  cases x with
  | ok a =>
      constructor
      · exact fun h => ⟨a, rfl, Except.ok.inj h⟩
      · rintro ⟨c, hc, h⟩
        cases hc
        exact congrArg _ h
  | error e => exact ⟨nofun, fun ⟨c, hc, _⟩ => by cases hc⟩

theorem bind_eq_error {x : Except ε α} {f : α → Except ε β} {e : ε} :
    x.bind f = .error e ↔ x = .error e ∨ ∃ a, x = .ok a ∧ f a = .error e := by
  cases x with
  | ok a =>
      constructor
      · exact fun h => .inr ⟨a, rfl, h⟩
      · rintro (h | ⟨c, hc, h⟩)
        · cases h
        · cases hc
          exact h
  | error d =>
      constructor
      · exact fun h => .inl (congrArg Except.error (Except.error.inj h))
      · rintro (h | ⟨c, hc, -⟩)
        · cases h
          rfl
        · cases hc

theorem map_eq_error {x : Except ε α} {f : α → β} {e : ε} :
    x.map f = .error e ↔ x = .error e := by
  cases x with
  | ok a => exact ⟨nofun, nofun⟩
  | error d => exact ⟨fun h => congrArg Except.error (Except.error.inj h), fun h => by cases h; rfl⟩

theorem mapError_eq_error {x : Except ε α} {f : ε → δ} {e : δ} :
    x.mapError f = .error e ↔ ∃ d, x = .error d ∧ f d = e := by
  cases x with
  | ok a => exact ⟨nofun, fun ⟨d, hd, _⟩ => by cases hd⟩
  | error d =>
      constructor
      · exact fun h => ⟨d, rfl, Except.error.inj h⟩
      · rintro ⟨c, hc, h⟩
        cases hc
        exact congrArg _ h

theorem mapError_bind (x : Except ε α) (f : α → Except ε β) (g : ε → δ) :
    (x.bind f).mapError g = (x.mapError g).bind fun a => (f a).mapError g := by
  cases x <;> rfl

theorem mapError_map (x : Except ε α) (f : α → β) (g : ε → δ) :
    (x.map f).mapError g = (x.mapError g).map f := by
  cases x <;> rfl

theorem mapError_mapError {γ : Type} (x : Except ε α) (f : ε → γ) (g : γ → δ) :
    (x.mapError f).mapError g = x.mapError fun e => g (f e) := by
  cases x <;> rfl

theorem mapM_cons_eq_ok {f : α → Except ε β} {a : α} {l : List α} {r : List β} :
    (a :: l).mapM f = .ok r ↔ ∃ b bs, f a = .ok b ∧ l.mapM f = .ok bs ∧ r = b :: bs := by
  rw [List.mapM_cons]
  constructor
  · intro h
    obtain ⟨b, hb, h⟩ := bind_eq_ok.mp h
    obtain ⟨bs, hbs, h⟩ := bind_eq_ok.mp h
    exact ⟨b, bs, hb, hbs, (Except.ok.inj h).symm⟩
  · rintro ⟨b, bs, hb, hbs, rfl⟩
    rw [hb, hbs]
    rfl

theorem mapM_append_eq_ok {f : α → Except ε β} {l l' : List α} {r : List β} :
    (l ++ l').mapM f = .ok r ↔
      ∃ bs bs', l.mapM f = .ok bs ∧ l'.mapM f = .ok bs' ∧ r = bs ++ bs' := by
  rw [List.mapM_append]
  constructor
  · intro h
    obtain ⟨bs, hbs, h⟩ := bind_eq_ok.mp h
    obtain ⟨bs', hbs', h⟩ := bind_eq_ok.mp h
    exact ⟨bs, bs', hbs, hbs', (Except.ok.inj h).symm⟩
  · rintro ⟨bs, bs', hbs, hbs', rfl⟩
    rw [hbs, hbs']
    rfl

theorem exists_map_eq_ok {x : Except ε α} {f : α → β} :
    (∃ b, x.map f = .ok b) ↔ ∃ a, x = .ok a := by
  constructor
  · rintro ⟨b, hb⟩
    obtain ⟨a, ha, -⟩ := map_eq_ok.mp hb
    exact ⟨a, ha⟩
  · rintro ⟨a, rfl⟩
    exact ⟨f a, rfl⟩

theorem exists_mapM_eq_ok {f : α → Except ε β} {l : List α} :
    (∃ r, l.mapM f = .ok r) ↔ ∀ a ∈ l, ∃ b, f a = .ok b := by
  induction l with
  | nil => exact ⟨fun _ a ha => absurd ha List.not_mem_nil, fun _ => ⟨[], rfl⟩⟩
  | cons a rest ih =>
      rw [List.forall_mem_cons, ← ih]
      constructor
      · rintro ⟨r, hr⟩
        obtain ⟨b, bs, hb, hbs, -⟩ := mapM_cons_eq_ok.mp hr
        exact ⟨⟨b, hb⟩, bs, hbs⟩
      · rintro ⟨⟨b, hb⟩, bs, hbs⟩
        exact ⟨b :: bs, mapM_cons_eq_ok.mpr ⟨b, bs, hb, hbs, rfl⟩⟩

end Result

namespace Traced

variable {α β ε : Type}

@[simp] theorem value_pure (a : α) : (pure a : Traced α).value = a := rfl

@[simp] theorem actions_pure (a : α) : (pure a : Traced α).actions = [] := rfl

@[simp] theorem value_bind (x : Traced α) (f : α → Traced β) :
    (x >>= f).value = (f x.value).value := rfl

@[simp] theorem actions_bind (x : Traced α) (f : α → Traced β) :
    (x >>= f).actions = x.actions ++ (f x.value).actions := rfl

@[simp] theorem value_flatMap (f : α → Traced (List β)) (l : List α) :
    (flatMap f l).value = l.flatMap fun a => (f a).value := by
  induction l with
  | nil => rfl
  | cons a rest ih => simp [flatMap, ih]

@[simp] theorem value_any (test : α → Traced Bool) (l : List α) :
    (any test l).value = l.any fun a => (test a).value := by
  induction l with
  | nil => rfl
  | cons a rest ih =>
      simp only [any, value_bind, List.any_cons]
      cases h : (test a).value with
      | true => simp
      | false => simpa using ih

@[simp] theorem value_filter (test : α → Traced Bool) (l : List α) :
    (filter test l).value = l.filter fun a => (test a).value := by
  induction l with
  | nil => rfl
  | cons a rest ih =>
      simp only [filter, value_bind, value_pure, ih, List.filter_cons]

/-! ### The events of a computation -/

theorem events_pure (a : α) : (pure a : Traced α).events = [] := rfl

theorem events_bind (x : Traced α) (f : α → Traced β) :
    (x >>= f).events = x.events ++ (f x.value).events :=
  List.filterMap_append

theorem events_flatMap (f : α → Traced (List β)) (l : List α) :
    (flatMap f l).events = l.flatMap fun a => (f a).events := by
  induction l with
  | nil => rfl
  | cons a rest ih =>
      simp only [flatMap, events_bind, events_pure, ih, List.append_nil, List.flatMap_cons]

/-! ### Steps that may fail -/

theorem value_run_bind (x : ExceptT ε Traced α) (f : α → ExceptT ε Traced β) :
    (x >>= f).run.value = x.run.value.bind fun a => (f a).run.value := by
  rw [ExceptT.run_bind, value_bind]
  cases x.run.value <;> rfl

theorem run_bind_ok {x : ExceptT ε Traced α} {a : α} (h : x.run.value = .ok a)
    (f : α → ExceptT ε Traced β) :
    (x >>= f).run.value = (f a).run.value ∧
      (x >>= f).run.actions = x.run.actions ++ (f a).run.actions := by
  rw [ExceptT.run_bind, value_bind, actions_bind, h]
  exact ⟨rfl, rfl⟩

theorem run_bind_error {x : ExceptT ε Traced α} {e : ε} (h : x.run.value = .error e)
    (f : α → ExceptT ε Traced β) :
    (x >>= f).run.value = .error e ∧ (x >>= f).run.actions = x.run.actions := by
  rw [ExceptT.run_bind, value_bind, actions_bind, h]
  exact ⟨rfl, List.append_nil _⟩

theorem mem_actions_run_bind {x : ExceptT ε Traced α} {b : Action} (h : b ∈ x.run.actions)
    (f : α → ExceptT ε Traced β) : b ∈ (x >>= f).run.actions := by
  rw [ExceptT.run_bind, actions_bind]
  exact List.mem_append_left _ h

theorem run_lift (x : Traced α) :
    (ExceptT.lift x : ExceptT ε Traced α).run.value = .ok x.value ∧
      (ExceptT.lift x : ExceptT ε Traced α).run.actions = x.actions :=
  ⟨rfl, List.append_nil x.actions⟩

/-! ### What a computation may do -/

/-- Everything that a computation does passes a test. -/
def Only (P : Action → Prop) (x : Traced α) : Prop := ∀ a ∈ x.actions, P a

variable {P : Action → Prop}

theorem only_pure (a : α) : Only P (pure a : Traced α) := by
  intro b hb
  simp at hb

theorem only_act {a : Action} (h : P a) : Only P (act a) := by
  intro b hb
  rw [act, List.mem_singleton] at hb
  exact hb ▸ h

theorem Only.bind {x : Traced α} {f : α → Traced β} (hx : Only P x) (hf : ∀ a, Only P (f a)) :
    Only P (x >>= f) := by
  intro b hb
  rw [actions_bind, List.mem_append] at hb
  exact hb.elim (hx b) (hf x.value b)

theorem only_flatMap {f : α → Traced (List β)} {l : List α} (hf : ∀ a ∈ l, Only P (f a)) :
    Only P (flatMap f l) := by
  induction l with
  | nil => exact only_pure []
  | cons a rest ih =>
      refine Only.bind (hf a List.mem_cons_self) fun here => ?_
      refine Only.bind (ih fun b hb => hf b (List.mem_cons_of_mem a hb)) fun there => ?_
      exact only_pure (here ++ there)

theorem only_any {test : α → Traced Bool} (htest : ∀ a, Only P (test a)) (l : List α) :
    Only P (any test l) := by
  induction l with
  | nil => exact only_pure false
  | cons a rest ih =>
      refine Only.bind (htest a) fun found => ?_
      cases found with
      | true => exact only_pure true
      | false => exact ih

theorem only_filter {test : α → Traced Bool} (htest : ∀ a, Only P (test a)) (l : List α) :
    Only P (filter test l) := by
  induction l with
  | nil => exact only_pure []
  | cons a rest ih =>
      exact Only.bind (htest a) fun keep => Only.bind ih fun others => only_pure _

theorem Only.lift {x : Traced α} (hx : Only P x) :
    Only P (ExceptT.lift x : ExceptT ε Traced α).run := by
  intro b hb
  rw [(run_lift x).2] at hb
  exact hx b hb

theorem only_ofResult (r : Except ε α) : Only P (ExceptT.mk (pure r) : ExceptT ε Traced α).run :=
  only_pure r

theorem Only.run_bind {x : ExceptT ε Traced α} {f : α → ExceptT ε Traced β}
    (hx : Only P x.run) (hf : ∀ a, Only P (f a).run) : Only P (x >>= f).run := by
  rw [ExceptT.run_bind]
  refine Only.bind hx fun r => ?_
  cases r with
  | ok a => exact hf a
  | error e => exact only_pure (Except.error e)

end Traced

end WordingAudit
