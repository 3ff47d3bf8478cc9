import WordingAudit.Proofs.Modes

/-!
Which settings are accepted. Checking the settings reads the pattern of every step, extraction,
substitution and token that an audit goes on to use. An older extraction and the replacements after
it make one chain, so the limit on the length of chains is a limit on those replacements as well.
-/

namespace WordingAudit

/-- The text is one that can be read as a pattern. -/
def IsPattern (source : Text) : Prop := (Pattern.ofText? source).isSome = true

instance (source : Text) : Decidable (IsPattern source) :=
  inferInstanceAs (Decidable (_ = true))

theorem exists_compilePattern_eq_ok {source : Text} :
    (∃ p, compilePattern source = .ok p) ↔ IsPattern source := by
  rw [compilePattern, IsPattern]
  cases Pattern.ofText? source <;> simp

namespace Step

theorem exists_compile_eq_ok {s : Step} :
    (∃ compiled, s.compile = .ok compiled) ↔ IsPattern s.pattern := by
  cases s <;> exact Result.exists_map_eq_ok.trans exists_compilePattern_eq_ok

/-- Steps from a level on compile when their patterns can be read and the last one stands at a level
that is allowed. -/
theorem exists_compileFrom_eq_ok {level : Nat} (hlevel : level ≤ Rule.maxSteps + 1)
    (steps : List Step) :
    (∃ compiled, compileFrom level steps = .ok compiled) ↔
      (∀ s ∈ steps, IsPattern s.pattern) ∧ steps.length + level ≤ Rule.maxSteps + 1 := by
  induction steps generalizing level with
  | nil => simp [compileFrom, hlevel]
  | cons s rest ih =>
      rw [compileFrom, List.forall_mem_cons, List.length_cons]
      by_cases hdeep : Rule.maxSteps < level
      · rw [if_pos hdeep]
        constructor
        · rintro ⟨compiled, hcompiled⟩
          cases hcompiled
        · rintro ⟨-, hlength⟩
          omega
      · rw [if_neg hdeep]
        have hnext : level + 1 ≤ Rule.maxSteps + 1 := by omega
        have hrest := ih hnext
        constructor
        · rintro ⟨compiled, hcompiled⟩
          obtain ⟨first, hfirst, hcompiled⟩ := Result.bind_eq_ok.mp hcompiled
          obtain ⟨others, hothers, -⟩ := Result.bind_eq_ok.mp hcompiled
          obtain ⟨hpatterns, hlength⟩ := hrest.mp ⟨others, hothers⟩
          exact ⟨⟨exists_compile_eq_ok.mp ⟨first, hfirst⟩, hpatterns⟩, by omega⟩
        · rintro ⟨⟨hfirst, hpatterns⟩, hlength⟩
          obtain ⟨first, hfirst⟩ := exists_compile_eq_ok.mpr hfirst
          obtain ⟨others, hothers⟩ := hrest.mpr ⟨hpatterns, by omega⟩
          refine ⟨first :: others, ?_⟩
          rw [hfirst, hothers]
          rfl

end Step

namespace Rule

theorem exists_compile_eq_ok {r : Rule} :
    (∃ compiled, r.compile = .ok compiled) ↔
      (∀ s ∈ r.steps, IsPattern s.pattern) ∧ r.steps.length ≤ maxSteps := by
  have hsecond : 2 ≤ maxSteps + 1 := by decide
  have hfurther := Step.exists_compileFrom_eq_ok hsecond r.further
  rw [steps, List.forall_mem_cons, List.length_cons]
  constructor
  · rintro ⟨compiled, hcompiled⟩
    obtain ⟨first, hfirst, hcompiled⟩ := Result.bind_eq_ok.mp hcompiled
    obtain ⟨further, hsteps, -⟩ := Result.bind_eq_ok.mp hcompiled
    obtain ⟨hpatterns, hlength⟩ := hfurther.mp ⟨further, hsteps⟩
    exact ⟨⟨Step.exists_compile_eq_ok.mp ⟨first, hfirst⟩, hpatterns⟩, by omega⟩
  · rintro ⟨⟨hfirst, hpatterns⟩, hlength⟩
    obtain ⟨first, hfirst⟩ := Step.exists_compile_eq_ok.mpr hfirst
    obtain ⟨further, hsteps⟩ := hfurther.mpr ⟨hpatterns, by omega⟩
    refine ⟨⟨first, further⟩, ?_⟩
    rw [compile, hfirst, hsteps]
    rfl

end Rule

theorem Substitution.exists_compileAll_eq_ok {list : List Substitution} :
    (∃ compiled, compileAll list = .ok compiled) ↔ ∀ s ∈ list, IsPattern s.pattern := by
  have hcompile (s : Substitution) : (∃ compiled, s.compile = .ok compiled) ↔
      IsPattern s.pattern :=
    Result.exists_map_eq_ok.trans exists_compilePattern_eq_ok
  rw [compileAll, Result.exists_mapM_eq_ok]
  simp only [hcompile]

namespace ProjectSettings

/-- There is something to look for, and each rule and each older extraction can be read. -/
structure Readable (s : ProjectSettings) : Prop where
  nonempty : s.rules ≠ [] ∨ s.legacyMatches ≠ []
  patterns : ∀ r ∈ s.rules, ∀ step ∈ r.steps, IsPattern step.pattern
  depth : ∀ r ∈ s.rules, r.steps.length ≤ Rule.maxSteps
  legacyMatches : ∀ m ∈ s.legacyMatches, IsPattern m.pattern

/-- An extraction with the replacements after it is not too long a chain. -/
def HasRoom (s : ProjectSettings) : Prop := s.replaces.length < Rule.maxSteps

theorem exists_compile_legacyRule_eq_ok {s : ProjectSettings} {m : LegacyMatch} :
    (∃ compiled, Rule.compile ⟨.extract m.pattern m.group,
      s.replaces.map Substitution.toStep⟩ = .ok compiled) ↔
      IsPattern m.pattern ∧ (∀ r ∈ s.replaces, IsPattern r.pattern) ∧ s.HasRoom := by
  rw [Rule.exists_compile_eq_ok, Rule.steps, List.forall_mem_cons, List.forall_mem_map,
    List.length_cons, List.length_map, and_assoc]
  rfl

theorem exists_compile_eq_ok {s : ProjectSettings} :
    (∃ project, s.compile = .ok project) ↔ s.Readable ∧
      (s.legacyMatches ≠ [] → (∀ r ∈ s.replaces, IsPattern r.pattern) ∧ s.HasRoom) := by
  have hempty : s.ruleSet.isEmpty = true ↔ s.rules = [] ∧ s.legacyMatches = [] := by
    rw [List.isEmpty_iff, ruleSet, List.append_eq_nil_iff, List.map_eq_nil_iff]
  have hall : (∃ rules, Rule.compileAll s.ruleSet = .ok rules) ↔
      (∀ r ∈ s.rules, (∀ step ∈ r.steps, IsPattern step.pattern) ∧
        r.steps.length ≤ Rule.maxSteps) ∧
      ∀ m ∈ s.legacyMatches, IsPattern m.pattern ∧
        (∀ r ∈ s.replaces, IsPattern r.pattern) ∧ s.HasRoom := by
    rw [Rule.compileAll, Result.exists_mapM_eq_ok, ruleSet, List.forall_mem_append,
      List.forall_mem_map]
    simp only [Rule.exists_compile_eq_ok, ← exists_compile_legacyRule_eq_ok]
  rw [compile]
  split
  · rename_i hnone
    obtain ⟨hrules, hmatches⟩ := hempty.mp hnone
    constructor
    · rintro ⟨project, hproject⟩
      cases hproject
    · rintro ⟨hreadable, -⟩
      exact absurd hreadable.nonempty (by simp [hrules, hmatches])
  · rename_i hsome
    rw [Result.exists_map_eq_ok, hall]
    constructor
    · rintro ⟨hrules, hmatches⟩
      refine ⟨⟨?_, fun r hr => (hrules r hr).1, fun r hr => (hrules r hr).2,
        fun m hm => (hmatches m hm).1⟩, fun hne => ?_⟩
      · rw [hempty] at hsome
        exact Decidable.not_and_iff_not_or_not.mp hsome
      · obtain ⟨m, hm⟩ := List.exists_mem_of_ne_nil _ hne
        exact (hmatches m hm).2
    · rintro ⟨hreadable, hreplaces⟩
      refine ⟨fun r hr => ⟨hreadable.patterns r hr, hreadable.depth r hr⟩, fun m hm => ?_⟩
      exact ⟨hreadable.legacyMatches m hm, hreplaces (List.ne_nil_of_mem hm)⟩

end ProjectSettings

namespace Config

/-- Every pattern that is written anywhere in the settings can be read, no rule that is written out
is too long, and the settings of a project ask for something. -/
structure Sound (c : Config) : Prop where
  project : ∀ s, c.project = some s → s.Readable
  replaces : ∀ s, c.project = some s → ∀ r ∈ s.replaces, IsPattern r.pattern
  wordings : ∀ r ∈ c.wordings.replaces, IsPattern r.pattern
  wildcard : ∀ w, c.wildcard = some w → IsPattern w

theorem exists_projectRules_eq_ok {c : Config} :
    (∃ rules, c.projectRules = .ok rules) ↔
      ∀ s, c.project = some s → ∃ project, s.compile = .ok project := by
  rw [projectRules]
  cases c.project with
  | none => simp
  | some s =>
      rw [Result.exists_map_eq_ok]
      simp

theorem exists_comparison_eq_ok {c : Config} :
    (∃ comparison, c.comparison = .ok comparison) ↔ ∀ w, c.wildcard = some w → IsPattern w := by
  rw [comparison]
  cases c.wildcard with
  | none =>
      refine ⟨fun _ w hw => ?_, fun _ => ⟨_, rfl⟩⟩
      cases hw
  | some w =>
      rw [Comparison.ofSettings_some, Result.exists_map_eq_ok, exists_compilePattern_eq_ok]
      simp

/-- The settings that are accepted. -/
theorem validate_eq_ok_iff {c : Config} :
    c.validate = .ok () ↔
      (∀ s, c.project = some s → s.Readable ∧
        (s.legacyMatches ≠ [] → (∀ r ∈ s.replaces, IsPattern r.pattern) ∧ s.HasRoom)) ∧
      (∀ r ∈ c.wordings.replaces, IsPattern r.pattern) ∧
      ∀ w, c.wildcard = some w → IsPattern w := by
  rw [Audit.validate_eq_ok, exists_projectRules_eq_ok, exists_comparison_eq_ok,
    WordingsSettings.compile, Substitution.exists_compileAll_eq_ok]
  simp only [ProjectSettings.exists_compile_eq_ok]

/-- Sound settings are accepted if each older extraction has room for the replacements after it. In
settings that are accepted, everything that an audit uses is sound: replacements count as used when
there is an older extraction. -/
theorem validate_covers (c : Config) :
    (c.Sound → (∀ s, c.project = some s → s.legacyMatches ≠ [] → s.HasRoom) →
      c.validate = .ok ()) ∧
    (c.validate = .ok () →
      (∀ s, c.project = some s → s.Readable ∧
        (s.legacyMatches ≠ [] → (∀ r ∈ s.replaces, IsPattern r.pattern) ∧ s.HasRoom)) ∧
      (∀ r ∈ c.wordings.replaces, IsPattern r.pattern) ∧
      ∀ w, c.wildcard = some w → IsPattern w) := by
  refine ⟨fun hsound hroom => ?_, validate_eq_ok_iff.mp⟩
  refine validate_eq_ok_iff.mpr ⟨fun s hs => ⟨hsound.project s hs, fun hused => ?_⟩,
    hsound.wordings, hsound.wildcard⟩
  exact ⟨hsound.replaces s hs, hroom s hs hused⟩

/-- An older extraction with a number of replacements after it. -/
def withReplacements (n : Nat) : Config where
  project := some {
    legacyMatches := [⟨Text.of "t<([^>]*)>", none⟩]
    replaces := List.replicate n ⟨Text.of "a", none⟩ }

theorem sound_withReplacements (n : Nat) : (withReplacements n).Sound := by
  have hmatch : IsPattern (Text.of "t<([^>]*)>") := by decide +kernel
  have hreplace : IsPattern (Text.of "a") := by decide +kernel
  refine ⟨?_, ?_, ?_, ?_⟩
  · rintro s ⟨⟩
    exact ⟨by simp, by simp, by simp, List.forall_mem_singleton.mpr hmatch⟩
  · rintro s ⟨⟩ r hr
    rw [List.eq_of_mem_replicate hr]
    exact hreplace
  · exact fun r hr => absurd hr List.not_mem_nil
  · rintro w ⟨⟩
    decide +kernel

theorem validate_covers_sample :
    (withReplacements 63).Sound ∧
      (∀ s, (withReplacements 63).project = some s → s.legacyMatches ≠ [] → s.HasRoom) ∧
      (withReplacements 63).validate = .ok () ∧
      IsPattern (Text.of "t<([^>]*)>") := by
  have hroom : ∀ s, (withReplacements 63).project = some s → s.legacyMatches ≠ [] →
      s.HasRoom := by
    rintro s ⟨⟩ -
    rw [ProjectSettings.HasRoom, List.length_replicate]
    decide
  obtain ⟨haccepts, hcovers⟩ := validate_covers (withReplacements 63)
  have hvalid := haccepts (sound_withReplacements 63) hroom
  obtain ⟨hreadable, -⟩ := (hcovers hvalid).1 _ rfl
  exact ⟨sound_withReplacements 63, hroom, hvalid, hreadable.legacyMatches _ List.mem_cons_self⟩

/-- A replacement that no extraction uses, with a text that is not a pattern. -/
def withUnusedReplacement : Config where
  project := some {
    rules := [⟨.extract (Text.of "t<([^>]*)>") none, []⟩]
    replaces := [⟨Text.of "(", none⟩] }

/-- Sound settings are not the same as accepted ones: as many replacements as a chain may have steps
leave no room for the extraction before them, and a replacement that nothing uses is not read. -/
theorem validate_ne_sound :
    ((withReplacements 64).Sound ∧
      (withReplacements 64).validate = .error (.settings .tooDeep)) ∧
    ¬withUnusedReplacement.Sound ∧ withUnusedReplacement.validate = .ok () := by
  refine ⟨⟨sound_withReplacements 64, by decide +kernel⟩, fun hsound => ?_, by decide +kernel⟩
  have hpattern := hsound.replaces _ rfl ⟨Text.of "(", none⟩ List.mem_cons_self
  exact absurd hpattern (by decide)

end Config

end WordingAudit
