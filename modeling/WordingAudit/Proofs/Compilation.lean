import Mathlib.Data.List.Forall2
import WordingAudit.Proofs.Validation

/-!
What a rule compiles to, and which error it ends with. The level of a step is checked before its
pattern, and the steps after it come last, so the first mistake in the order of the steps counts.
-/

namespace WordingAudit

namespace Result

variable {α β ε : Type} {f : α → Except ε β} {l : List α}

theorem mapM_eq_ok_iff {r : List β} :
    l.mapM f = .ok r ↔ List.Forall₂ (fun a b => f a = .ok b) l r := by
  induction l generalizing r with
  | nil =>
      rw [List.forall₂_nil_left_iff]
      exact ⟨fun h => (Except.ok.inj h).symm, fun h => congrArg Except.ok h.symm⟩
  | cons a rest ih =>
      rw [mapM_cons_eq_ok, List.forall₂_cons_left_iff]
      simp only [ih, exists_and_left]

/-- A list whose first element comes from `x` and whose others come from `y` ends with the error of
`x`, or else with that of `y`. -/
theorem cons_eq_error {x : Except ε β} {y : Except ε (List β)} {e : ε} :
    (do let b ← x; let bs ← y; return b :: bs) = Except.error e ↔
      x = .error e ∨ (∃ b, x = .ok b) ∧ y = .error e := by
  constructor
  · intro h
    rcases bind_eq_error.mp h with hx | ⟨b, hb, h⟩
    · exact .inl hx
    · rcases bind_eq_error.mp h with hy | ⟨bs, -, h⟩
      · exact .inr ⟨⟨b, hb⟩, hy⟩
      · cases h
  · rintro (hx | ⟨⟨b, hb⟩, hy⟩)
    · exact bind_eq_error.mpr (.inl hx)
    · exact bind_eq_error.mpr (.inr ⟨b, hb, bind_eq_error.mpr (.inl hy)⟩)

theorem mapM_eq_error_iff {e : ε} :
    l.mapM f = .error e ↔ ∃ before a after, l = before ++ a :: after ∧
      (∀ b ∈ before, ∃ c, f b = .ok c) ∧ f a = .error e := by
  induction l with
  | nil =>
      constructor
      · exact nofun
      · rintro ⟨before, a, after, hsplit, -⟩
        simp at hsplit
  | cons a rest ih =>
      rw [List.mapM_cons, cons_eq_error, ih]
      constructor
      · rintro (ha | ⟨hok, before, c, after, rfl, hbefore, hc⟩)
        · exact ⟨[], a, rest, rfl, fun _ hb => absurd hb List.not_mem_nil, ha⟩
        · exact ⟨a :: before, c, after, rfl, List.forall_mem_cons.mpr ⟨hok, hbefore⟩, hc⟩
      · rintro ⟨before, c, after, hsplit, hbefore, hc⟩
        cases before with
        | nil =>
            obtain ⟨rfl, rfl⟩ := List.cons.inj hsplit
            exact .inl hc
        | cons b before =>
            obtain ⟨rfl, rfl⟩ := List.cons.inj hsplit
            obtain ⟨hok, hbefore⟩ := List.forall_mem_cons.mp hbefore
            exact .inr ⟨hok, before, c, after, rfl, hbefore, hc⟩

end Result

theorem compilePattern_eq_ok {source : Text} {p : Pattern} :
    compilePattern source = .ok p ↔ Pattern.ofText? source = some p := by
  rw [compilePattern]
  cases Pattern.ofText? source <;> simp

theorem compilePattern_eq_error {source : Text} {e : AuditError} :
    compilePattern source = .error e ↔ ¬IsPattern source ∧ e = .pattern source := by
  rw [compilePattern, IsPattern]
  cases Pattern.ofText? source <;> simp [eq_comm]

namespace Step

/-- The compiled form of a step: a step of the same kind whose pattern is read. An extraction
without a group takes group 1, and a replacement is a template for its pattern. -/
inductive Compiled : Step → CompiledStep → Prop
  | extract {source : Text} {group : Option Nat} {p : Pattern}
      (h : Pattern.ofText? source = some p) :
      Compiled (.extract source group) (.extract p (group.getD 1))
  | replace {source : Text} {replacement : Option Text} {p : Pattern}
      (h : Pattern.ofText? source = some p) :
      Compiled (.replace source replacement) (.replace p (Template.ofReplacement p replacement))
  | ignore {source : Text} {p : Pattern} (h : Pattern.ofText? source = some p) :
      Compiled (.ignore source) (.ignore p)

theorem compile_eq_ok {s : Step} {c : CompiledStep} : s.compile = .ok c ↔ s.Compiled c := by
  constructor
  · intro h
    cases s with
    | extract source group =>
        obtain ⟨p, hp, rfl⟩ := Result.map_eq_ok.mp h
        exact .extract (compilePattern_eq_ok.mp hp)
    | replace source replacement =>
        obtain ⟨p, hp, rfl⟩ := Result.map_eq_ok.mp h
        exact .replace (compilePattern_eq_ok.mp hp)
    | ignore source =>
        obtain ⟨p, hp, rfl⟩ := Result.map_eq_ok.mp h
        exact .ignore (compilePattern_eq_ok.mp hp)
  · intro h
    cases h with
    | extract hp => exact Result.map_eq_ok.mpr ⟨_, compilePattern_eq_ok.mpr hp, rfl⟩
    | replace hp => exact Result.map_eq_ok.mpr ⟨_, compilePattern_eq_ok.mpr hp, rfl⟩
    | ignore hp => exact Result.map_eq_ok.mpr ⟨_, compilePattern_eq_ok.mpr hp, rfl⟩

theorem compile_eq_error {s : Step} {e : AuditError} :
    s.compile = .error e ↔ ¬IsPattern s.pattern ∧ e = .pattern s.pattern := by
  cases s <;> exact Result.map_eq_error.trans compilePattern_eq_error

variable {level : Nat} {steps : List Step}

theorem compiled_of_compileFrom {compiled : List CompiledStep}
    (h : compileFrom level steps = .ok compiled) : List.Forall₂ Compiled steps compiled := by
  induction steps generalizing level compiled with
  | nil =>
      cases h
      exact .nil
  | cons s rest ih =>
      rw [compileFrom] at h
      split at h
      · cases h
      · obtain ⟨first, hfirst, h⟩ := Result.bind_eq_ok.mp h
        obtain ⟨others, hothers, h⟩ := Result.bind_eq_ok.mp h
        cases h
        exact .cons (compile_eq_ok.mp hfirst) (ih hothers)

/-- Steps from a level on end with the first pattern that cannot be read, if its level is allowed,
or with the level after the last one that is. -/
theorem compileFrom_eq_error (hlevel : level ≤ Rule.maxSteps + 1) {e : AuditError} :
    compileFrom level steps = .error e ↔
      (∃ before s after, steps = before ++ s :: after ∧ before.length + level ≤ Rule.maxSteps ∧
        (∀ b ∈ before, IsPattern b.pattern) ∧ ¬IsPattern s.pattern ∧ e = .pattern s.pattern) ∨
      (Rule.maxSteps + 1 < steps.length + level ∧
        (∀ s ∈ steps.take (Rule.maxSteps + 1 - level), IsPattern s.pattern) ∧
        e = .settings .tooDeep) := by
  induction steps generalizing level with
  | nil =>
      constructor
      · exact nofun
      · rintro (⟨before, s, after, hsplit, -⟩ | ⟨hlong, -⟩)
        · simp at hsplit
        · rw [List.length_nil] at hlong
          omega
  | cons s rest ih =>
      rw [compileFrom, List.length_cons]
      -- at a level that is not allowed no pattern is looked at, so nothing is left to take
      by_cases hdeep : Rule.maxSteps < level
      · have hnone : Rule.maxSteps + 1 - level = 0 := by omega
        rw [if_pos hdeep, hnone]
        constructor
        · intro h
          cases h
          exact .inr ⟨by omega, fun _ hs => absurd hs List.not_mem_nil, rfl⟩
        · rintro (⟨before, s, after, -, hshort, -⟩ | ⟨-, -, rfl⟩)
          · omega
          · rfl
      · have hnext : level + 1 ≤ Rule.maxSteps + 1 := by omega
        have htake : Rule.maxSteps + 1 - level = Rule.maxSteps + 1 - (level + 1) + 1 := by omega
        rw [if_neg hdeep, Result.cons_eq_error, compile_eq_error, exists_compile_eq_ok, ih hnext,
          htake, List.take_succ_cons, List.forall_mem_cons]
        constructor
        · rintro (⟨hs, rfl⟩ | ⟨hpattern, ⟨before, t, after, rfl, hshort, hbefore, ht, rfl⟩ |
            ⟨hlong, htaken, rfl⟩⟩)
          · refine .inl ⟨[], s, rest, rfl, ?_, fun _ hb => absurd hb List.not_mem_nil, hs, rfl⟩
            rw [List.length_nil]
            omega
          · refine .inl ⟨s :: before, t, after, rfl, ?_, ?_, ht, rfl⟩
            · rw [List.length_cons]
              omega
            · exact List.forall_mem_cons.mpr ⟨hpattern, hbefore⟩
          · exact .inr ⟨by omega, ⟨hpattern, htaken⟩, rfl⟩
        · rintro (⟨before, t, after, hsplit, hshort, hbefore, ht, rfl⟩ |
            ⟨hlong, ⟨hpattern, htaken⟩, rfl⟩)
          · cases before with
            | nil =>
                obtain ⟨rfl, rfl⟩ := List.cons.inj hsplit
                exact .inl ⟨ht, rfl⟩
            | cons b before =>
                obtain ⟨rfl, rfl⟩ := List.cons.inj hsplit
                obtain ⟨hpattern, hbefore⟩ := List.forall_mem_cons.mp hbefore
                rw [List.length_cons] at hshort
                exact .inr ⟨hpattern, .inl ⟨before, t, after, rfl, by omega, hbefore, ht, rfl⟩⟩
          · exact .inr ⟨hpattern, .inr ⟨by omega, htaken, rfl⟩⟩

end Step

namespace Rule

variable {r : Rule}

/-- The first step stands at level 1, which is allowed. -/
theorem compileFrom_one (r : Rule) :
    Step.compileFrom 1 r.steps = r.compile.map CompiledRule.steps := by
  rw [steps, Step.compileFrom, if_neg (by decide), compile]
  cases r.first.compile with
  | error e => rfl
  | ok first => cases Step.compileFrom 2 r.further <;> rfl

theorem compiled_of_compile {c : CompiledRule} (h : r.compile = .ok c) :
    List.Forall₂ Step.Compiled r.steps c.steps := by
  have hsteps : Step.compileFrom 1 r.steps = .ok c.steps := by
    rw [compileFrom_one, h]
    rfl
  exact Step.compiled_of_compileFrom hsteps

theorem compile_eq_error {e : AuditError} :
    r.compile = .error e ↔
      (∃ before s after, r.steps = before ++ s :: after ∧ before.length < maxSteps ∧
        (∀ b ∈ before, IsPattern b.pattern) ∧ ¬IsPattern s.pattern ∧ e = .pattern s.pattern) ∨
      (maxSteps < r.steps.length ∧ (∀ s ∈ r.steps.take maxSteps, IsPattern s.pattern) ∧
        e = .settings .tooDeep) := by
  have hfirst : 1 ≤ maxSteps + 1 := by decide
  have hsteps : Step.compileFrom 1 r.steps = .error e ↔ _ := Step.compileFrom_eq_error hfirst
  rw [compileFrom_one, Result.map_eq_error] at hsteps
  simpa only [Nat.add_lt_add_iff_right, Nat.add_sub_cancel, Nat.succ_le_iff] using hsteps

/-- A rule compiles if it has no more steps than are allowed and each pattern can be read, and then
step by step. If not, the first pattern that cannot be read is refused when its level is allowed,
and the rule is too long when there is none up to the last level. Of several rules, the first that
does not compile decides. -/
theorem compile_covers (r : Rule) (rules : List Rule) :
    ((∃ c, r.compile = .ok c) ↔
      r.steps.length ≤ maxSteps ∧ ∀ s ∈ r.steps, IsPattern s.pattern) ∧
    (∀ c, r.compile = .ok c → List.Forall₂ Step.Compiled r.steps c.steps) ∧
    (∀ e, r.compile = .error e ↔
      (∃ before s after, r.steps = before ++ s :: after ∧ before.length < maxSteps ∧
        (∀ b ∈ before, IsPattern b.pattern) ∧ ¬IsPattern s.pattern ∧ e = .pattern s.pattern) ∨
      (maxSteps < r.steps.length ∧ (∀ s ∈ r.steps.take maxSteps, IsPattern s.pattern) ∧
        e = .settings .tooDeep)) ∧
    (∀ compiled, compileAll rules = .ok compiled ↔
      List.Forall₂ (fun r c => r.compile = .ok c) rules compiled) ∧
    ∀ e, compileAll rules = .error e ↔ ∃ before r after, rules = before ++ r :: after ∧
      (∀ b ∈ before, ∃ c, b.compile = .ok c) ∧ r.compile = .error e := by
  refine ⟨exists_compile_eq_ok.trans and_comm, fun _ => compiled_of_compile,
    fun _ => compile_eq_error, fun _ => Result.mapM_eq_ok_iff, fun _ => Result.mapM_eq_error_iff⟩

/-- Steps of each kind, with as many in front of them as make the last one stand at a level. -/
def sampleRule (level : Nat) (last : Step) : Rule :=
  ⟨.ignore ['x'], .extract (Text.of "t<([^>]*)>") none ::
    (List.replicate (level - 3) (.replace ['a'] none) ++ [last])⟩

/-- A pattern that cannot be read is refused at the last level that is allowed; one level further it
is not looked at. -/
theorem compile_covers_sample :
    (∃ c, (sampleRule 64 (.ignore ['y'])).compile = .ok c ∧
      List.Forall₂ Step.Compiled (sampleRule 64 (.ignore ['y'])).steps c.steps) ∧
    (sampleRule 64 (.ignore ['('])).compile = .error (.pattern ['(']) ∧
    (sampleRule 65 (.ignore ['('])).compile = .error (.settings .tooDeep) ∧
    compileAll [sampleRule 64 (.ignore ['y']), sampleRule 65 (.ignore ['(']),
      sampleRule 64 (.ignore ['('])] = .error (.settings .tooDeep) := by
  obtain ⟨hok, hcompiled, -⟩ := compile_covers (sampleRule 64 (.ignore ['y'])) []
  obtain ⟨c, hc⟩ := hok.mpr (by decide +kernel)
  obtain ⟨-, -, hrefused, -⟩ := compile_covers (sampleRule 64 (.ignore ['('])) []
  obtain ⟨-, -, hdeep, -⟩ := compile_covers (sampleRule 65 (.ignore ['('])) []
  obtain ⟨-, -, -, -, hall⟩ := compile_covers (sampleRule 65 (.ignore ['(']))
    [sampleRule 64 (.ignore ['y']), sampleRule 65 (.ignore ['(']), sampleRule 64 (.ignore ['('])]
  have hlong := (hdeep (.settings .tooDeep)).mpr (.inr ⟨by decide, by decide +kernel, rfl⟩)
  refine ⟨⟨c, hc, hcompiled c hc⟩, ?_, hlong, ?_⟩
  · exact (hrefused _).mpr (.inl ⟨(sampleRule 64 (.ignore ['('])).steps.dropLast, .ignore ['('], [],
      rfl, by decide, by decide +kernel, by decide, rfl⟩)
  · refine (hall _).mpr ⟨[sampleRule 64 (.ignore ['y'])], _, _, rfl, ?_, hlong⟩
    exact List.forall_mem_singleton.mpr ⟨c, hc⟩

end Rule

end WordingAudit
