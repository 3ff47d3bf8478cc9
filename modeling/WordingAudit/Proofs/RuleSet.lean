import WordingAudit.Config.Basic
import WordingAudit.Proofs.Chain

/-!
The older form of a project's settings. A rule made of a match and a chain of replacements finds
what the match alone finds, with every substitution applied to it in turn.
-/

namespace WordingAudit

/-- An older extraction as a rule of its own, without anything that goes on with its results. -/
def LegacyMatch.toRule (m : LegacyMatch) : Rule := ⟨.extract m.pattern m.group, []⟩

/-- A substitution whose pattern has been read, as a step of a rule. -/
def CompiledSubstitution.toStep (s : CompiledSubstitution) : CompiledStep :=
  .replace s.pattern s.template

namespace CompiledSubstitution

/-- A key after every substitution in turn; it may be empty on the way. -/
def rewrite (list : List CompiledSubstitution) (key : Text) : Text :=
  list.foldl (fun k s => s.apply k) key

theorem keys_map_toStep (list : List CompiledSubstitution) (t : Text) :
    CompiledStep.keys (list.map toStep) t =
      if (rewrite list t).isEmpty then [] else [rewrite list t] := by
  induction list generalizing t with
  | nil => rfl
  | cons s rest ih =>
      have hresults : s.toStep.results t = [s.apply t] := rfl
      rw [List.map_cons, CompiledStep.keys, hresults, List.flatMap_singleton, ih]
      rfl

theorem applyAll_cons (list : List CompiledSubstitution) (key : Text) (keys : List Text) :
    applyAll list (key :: keys) =
      (if (rewrite list key).isEmpty then [] else [rewrite list key]) ++ applyAll list keys := by
  have hkey : list.foldl (fun k s => s.apply k) key = rewrite list key := rfl
  rw [applyAll, List.map_cons, List.filter_cons, hkey]
  cases (rewrite list key).isEmpty <;> rfl

/-- Substitutions that go on with the results of a step do to each of them what they do to a key. -/
theorem keys_step_replaces {step : CompiledStep} {t : Text}
    (hfull : ∀ v ∈ step.results t, v.isEmpty = false) (list : List CompiledSubstitution) :
    CompiledStep.keys (step :: list.map toStep) t =
      applyAll list (CompiledStep.keys [step] t) := by
  rw [CompiledStep.keys, CompiledStep.keys]
  generalize step.results t = texts at hfull
  induction texts with
  | nil => rfl
  | cons v rest ih =>
      have hv : CompiledStep.keys [] v = [v] := by
        rw [CompiledStep.keys, hfull v List.mem_cons_self]
        rfl
      rw [List.flatMap_cons, List.flatMap_cons, hv, List.singleton_append, applyAll_cons,
        keys_map_toStep, ih fun u hu => hfull u (List.mem_cons_of_mem v hu)]

end CompiledSubstitution

namespace CompiledStep

theorem extract_results_full {p : Pattern} {group : Nat} {t v : Text}
    (h : v ∈ (extract p group).results t) : v.isEmpty = false := by
  obtain ⟨m, -, hm⟩ := List.mem_filterMap.mp h
  rw [groupOf?, Option.filter_eq_some_iff] at hm
  simpa using hm.2

end CompiledStep

theorem Substitution.compile_toStep (s : Substitution) :
    s.toStep.compile = s.compile.map CompiledSubstitution.toStep := by
  rw [toStep, Step.compile, compile]
  cases compilePattern s.pattern <;> rfl

/-- Steps made of substitutions compile to the compiled substitutions as steps. -/
theorem Step.compileFrom_map_toStep {level : Nat} {replaces : List Substitution}
    {steps : List CompiledStep}
    (h : compileFrom level (replaces.map Substitution.toStep) = .ok steps) :
    ∃ list, Substitution.compileAll replaces = .ok list ∧
      steps = list.map CompiledSubstitution.toStep := by
  induction replaces generalizing level steps with
  | nil => exact ⟨[], rfl, (Except.ok.inj h).symm⟩
  | cons s rest ih =>
      rw [List.map_cons, compileFrom] at h
      split at h
      · cases h
      · obtain ⟨step, hstep, h⟩ := Result.bind_eq_ok.mp h
        obtain ⟨others, hothers, h⟩ := Result.bind_eq_ok.mp h
        rw [Substitution.compile_toStep, Result.map_eq_ok] at hstep
        obtain ⟨compiled, hcompiled, rfl⟩ := hstep
        obtain ⟨list, hlist, rfl⟩ := ih hothers
        refine ⟨compiled :: list, ?_, (Except.ok.inj h).symm⟩
        exact Result.mapM_cons_eq_ok.mpr ⟨compiled, list, hcompiled, hlist, rfl⟩

namespace ProjectSettings

/-- The rule of an older extraction compiles to its match, and to the substitutions after it. -/
theorem compile_legacyRule {m : LegacyMatch} {replaces : List Substitution} {r : CompiledRule}
    (h : Rule.compile ⟨.extract m.pattern m.group, replaces.map Substitution.toStep⟩ = .ok r) :
    ∃ plain list, m.toRule.compile = .ok plain ∧ Substitution.compileAll replaces = .ok list ∧
      ∀ t, CompiledStep.keys r.steps t =
        CompiledSubstitution.applyAll list (plain.apply t 0).value := by
  obtain ⟨first, hfirst, h⟩ := Result.bind_eq_ok.mp h
  obtain ⟨further, hfurther, h⟩ := Result.bind_eq_ok.mp h
  obtain ⟨list, hlist, rfl⟩ := Step.compileFrom_map_toStep hfurther
  cases h
  refine ⟨⟨first, []⟩, list, ?_, hlist, fun t => ?_⟩
  · rw [LegacyMatch.toRule, Rule.compile, hfirst]
    rfl
  · rw [Step.compile, Result.map_eq_ok] at hfirst
    obtain ⟨p, -, rfl⟩ := hfirst
    rw [CompiledRule.apply_value]
    exact CompiledSubstitution.keys_step_replaces
      (fun v hv => CompiledStep.extract_results_full hv) list

theorem compileAll_legacyRules {replaces : List Substitution} {list : List CompiledSubstitution}
    (hlist : Substitution.compileAll replaces = .ok list) {legacies : List LegacyMatch}
    {rules : List CompiledRule}
    (h : Rule.compileAll (legacies.map fun m =>
      ⟨.extract m.pattern m.group, replaces.map Substitution.toStep⟩) = .ok rules) :
    ∃ plain, Rule.compileAll (legacies.map LegacyMatch.toRule) = .ok plain ∧
      ∀ t, (CompiledRule.applyAll rules t).value = plain.flatMap fun r =>
        CompiledSubstitution.applyAll list (r.apply t 0).value := by
  induction legacies generalizing rules with
  | nil =>
      cases h
      exact ⟨[], rfl, fun t => rfl⟩
  | cons m rest ih =>
      obtain ⟨r, others, hr, hothers, rfl⟩ := Result.mapM_cons_eq_ok.mp h
      obtain ⟨first, list', hfirst, hlist', hkeys⟩ := compile_legacyRule hr
      obtain ⟨plain, hplain, hrest⟩ := ih hothers
      cases hlist.symm.trans hlist'
      refine ⟨first :: plain, Result.mapM_cons_eq_ok.mpr ⟨first, plain, hfirst, hplain, rfl⟩,
        fun t => ?_⟩
      rw [CompiledRule.applyAll_value, List.flatMap_cons, List.flatMap_cons, hkeys, ← hrest,
        CompiledRule.applyAll_value]

/-- The keys that project settings take from a text: those of the rules that are written out, then,
for each older extraction in turn, what its match alone takes, rewritten by every substitution. -/
theorem applyAll_ruleSet {s : ProjectSettings} {project : ProjectRules}
    (h : s.compile = .ok project) :
    ∃ explicit plain list, Rule.compileAll s.rules = .ok explicit ∧
      Rule.compileAll (s.legacyMatches.map LegacyMatch.toRule) = .ok plain ∧
      (s.legacyMatches ≠ [] → Substitution.compileAll s.replaces = .ok list) ∧
      ∀ t, (CompiledRule.applyAll project.rules t).value =
        (CompiledRule.applyAll explicit t).value ++ plain.flatMap fun r =>
          CompiledSubstitution.applyAll list (r.apply t 0).value := by
  rw [compile] at h
  split at h
  · cases h
  · obtain ⟨rules, hrules, rfl⟩ := Result.map_eq_ok.mp h
    obtain ⟨explicit, legacy, hexplicit, hlegacy, rfl⟩ := Result.mapM_append_eq_ok.mp hrules
    cases hlegacies : s.legacyMatches with
    | nil =>
        rw [hlegacies] at hlegacy
        cases hlegacy
        exact ⟨explicit, [], [], hexplicit, rfl, fun hne => absurd rfl hne, fun t => by simp⟩
    | cons m rest =>
        rw [hlegacies] at hlegacy
        -- the replacements are compiled once for each extraction, always to the same list
        obtain ⟨r, -, hr, -, -⟩ := Result.mapM_cons_eq_ok.mp hlegacy
        obtain ⟨-, list, -, hlist, -⟩ := compile_legacyRule hr
        obtain ⟨plain, hplain, hkeys⟩ := compileAll_legacyRules hlist hlegacy
        refine ⟨explicit, plain, list, hexplicit, hplain, fun _ => hlist, fun t => ?_⟩
        rw [CompiledRule.applyAll_append_value, hkeys]

/-- A rule of its own, an older extraction, and replacements that empty a text and fill it again. -/
def sampleSettings : ProjectSettings where
  rules := [⟨.extract (Text.of "k(.)") none, []⟩]
  legacyMatches := [⟨Text.of "t<([^>]*)>", none⟩]
  replaces := [⟨Text.of "^a$", none⟩, ⟨Text.of "^$", some (Text.of "b")⟩]

theorem applyAll_ruleSet_sample :
    ∃ project, sampleSettings.compile = .ok project ∧
      (∃ explicit plain list, Rule.compileAll sampleSettings.rules = .ok explicit ∧
        Rule.compileAll (sampleSettings.legacyMatches.map LegacyMatch.toRule) = .ok plain ∧
        (sampleSettings.legacyMatches ≠ [] →
          Substitution.compileAll sampleSettings.replaces = .ok list) ∧
        ∀ t, (CompiledRule.applyAll project.rules t).value =
          (CompiledRule.applyAll explicit t).value ++ plain.flatMap fun r =>
            CompiledSubstitution.applyAll list (r.apply t 0).value) ∧
      (CompiledRule.applyAll project.rules (Text.of "t<a> k1 t<c>")).value =
        [['1'], ['b'], ['c']] := by
  have hkeys : (sampleSettings.compile.map fun project =>
      (CompiledRule.applyAll project.rules (Text.of "t<a> k1 t<c>")).value) =
        .ok [['1'], ['b'], ['c']] := by decide +kernel
  obtain ⟨project, hproject, hvalue⟩ := Result.map_eq_ok.mp hkeys
  exact ⟨project, hproject, applyAll_ruleSet hproject, hvalue⟩

end ProjectSettings

end WordingAudit
