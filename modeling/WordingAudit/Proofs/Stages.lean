import WordingAudit.Proofs.RuleSet

/-!
Substitutions made in two stages. Keys that are empty after the first stage are left out there; were
both stages one, the second could fill them again, and this is the only difference.
-/

namespace WordingAudit.CompiledSubstitution

variable {first second : List CompiledSubstitution} {key : Text} {keys : List Text}

theorem rewrite_append (first second : List CompiledSubstitution) (key : Text) :
    rewrite (first ++ second) key = rewrite second (rewrite first key) :=
  List.foldl_append

theorem applyAll_cons_of_empty (h : rewrite first key = []) :
    applyAll first (key :: keys) = applyAll first keys := by
  rw [applyAll_cons, h]
  rfl

theorem applyAll_cons_of_full (h : rewrite first key ≠ []) :
    applyAll first (key :: keys) = rewrite first key :: applyAll first keys := by
  rw [applyAll_cons, if_neg (by simpa using h), List.singleton_append]

/-- The keys that are left are those that are not empty in the end, each in its place. -/
theorem applyAll_eq_map (list : List CompiledSubstitution) (keys : List Text) :
    applyAll list keys = (keys.filter fun key => rewrite list key ≠ []).map (rewrite list) := by
  induction keys with
  | nil => rfl
  | cons key rest ih =>
      by_cases h : rewrite list key = []
      · rw [applyAll_cons_of_empty h, List.filter_cons_of_neg (by simpa using h), ih]
      · rw [applyAll_cons_of_full h, List.filter_cons_of_pos (by simpa using h), ih, List.map_cons]

/-- A key that the first stage empties is lost in two stages; in one it is what the second stage
makes of the empty text. -/
theorem stages_cons_of_empty (second : List CompiledSubstitution) (keys : List Text)
    (h : rewrite first key = []) :
    applyAll second (applyAll first (key :: keys)) = applyAll second (applyAll first keys) ∧
      applyAll (first ++ second) (key :: keys) =
        applyAll second [[]] ++ applyAll (first ++ second) keys := by
  refine ⟨by rw [applyAll_cons_of_empty h], ?_⟩
  have hnone : applyAll second [] = [] := rfl
  rw [applyAll_cons, rewrite_append, h, applyAll_cons, hnone, List.append_nil]

/-- Any other key goes the same way in two stages and in one. -/
theorem stages_cons_of_full (second : List CompiledSubstitution) (keys : List Text)
    (h : rewrite first key ≠ []) :
    applyAll second (applyAll first (key :: keys)) =
        applyAll second [rewrite first key] ++ applyAll second (applyAll first keys) ∧
      applyAll (first ++ second) (key :: keys) =
        applyAll second [rewrite first key] ++ applyAll (first ++ second) keys := by
  have hnone : applyAll second [] = [] := rfl
  constructor
  · rw [applyAll_cons_of_full h, applyAll_cons, applyAll_cons, hnone, List.append_nil]
  · rw [applyAll_cons, rewrite_append, applyAll_cons, hnone, List.append_nil]

theorem stages_sublist (first second : List CompiledSubstitution) (keys : List Text) :
    (applyAll second (applyAll first keys)).Sublist (applyAll (first ++ second) keys) := by
  induction keys with
  | nil => exact List.Sublist.refl _
  | cons key rest ih =>
      by_cases h : rewrite first key = []
      · obtain ⟨htwo, hone⟩ := stages_cons_of_empty second rest h
        rw [htwo, hone]
        exact ih.trans (List.sublist_append_right _ _)
      · obtain ⟨htwo, hone⟩ := stages_cons_of_full second rest h
        rw [htwo, hone]
        exact List.Sublist.append_left ih _

theorem stages_eq_iff :
    applyAll second (applyAll first keys) = applyAll (first ++ second) keys ↔
      rewrite second [] = [] ∨ ∀ key ∈ keys, rewrite first key ≠ [] := by
  induction keys with
  | nil => exact iff_of_true rfl (.inr fun _ hkey => absurd hkey List.not_mem_nil)
  | cons key rest ih =>
      rw [List.forall_mem_cons]
      by_cases h : rewrite first key = []
      · obtain ⟨htwo, hone⟩ := stages_cons_of_empty second rest h
        rw [htwo, hone]
        by_cases hsecond : rewrite second [] = []
        · have hnone : applyAll second [[]] = [] := applyAll_cons_of_empty hsecond
          rw [hnone, List.nil_append, ih]
          exact iff_of_true (.inl hsecond) (.inl hsecond)
        · -- the filled key is one more than two stages can give
          have hfilled : applyAll second [[]] = [rewrite second []] := applyAll_cons_of_full hsecond
          have hshorter := (stages_sublist first second rest).length_le
          refine iff_of_false (fun heq => ?_) (by simp [h, hsecond])
          have hlengths := congrArg List.length heq
          rw [hfilled, List.length_append, List.length_singleton] at hlengths
          omega
      · obtain ⟨htwo, hone⟩ := stages_cons_of_full second rest h
        rw [htwo, hone, List.append_cancel_left_eq, ih, and_iff_right h]

/-- Substitutions in two stages give some of the keys that they give in one, in the same order. They
give all of them when the second stage leaves the empty text empty, and otherwise only when the
first empties no key. A key that a list of substitutions gives is made of one key, by each
substitution in turn, and is not empty; each key gives one at most, and they stay in order. -/
theorem applyAll_in_stages (first second : List CompiledSubstitution) (keys : List Text) :
    (applyAll second (applyAll first keys)).Sublist (applyAll (first ++ second) keys) ∧
    (rewrite second [] = [] →
      applyAll second (applyAll first keys) = applyAll (first ++ second) keys) ∧
    (applyAll second (applyAll first keys) = applyAll (first ++ second) keys →
      rewrite second [] = [] ∨ ∀ key ∈ keys, rewrite first key ≠ []) ∧
    ∀ list, applyAll list keys =
        (keys.filter fun key => rewrite list key ≠ []).map (rewrite list) ∧
      ∀ k ∈ applyAll list keys, k ≠ [] ∧
        ∃ key ∈ keys, k = list.foldl (fun k s => s.apply k) key := by
  refine ⟨stages_sublist first second keys, fun h => stages_eq_iff.mpr (.inl h),
    stages_eq_iff.mp, fun list => ⟨applyAll_eq_map list keys, fun k hk => ?_⟩⟩
  rw [applyAll_eq_map] at hk
  obtain ⟨key, hkey, rfl⟩ := List.mem_map.mp hk
  obtain ⟨hmem, hfull⟩ := List.mem_filter.mp hkey
  exact ⟨of_decide_eq_true hfull, key, hmem, rfl⟩

/-- A substitution that empties a key, one that fills the empty text, and one that leaves it
empty. -/
theorem applyAll_in_stages_sample : ∃ emptying filling marking,
    applyAll [filling] (applyAll [emptying] [['a'], ['b']]) = [['b']] ∧
      applyAll [emptying, filling] [['a'], ['b']] = [['x'], ['b']] ∧
      rewrite [marking] [] = [] ∧
      applyAll [marking] (applyAll [emptying] [['a'], ['b']]) = [['b', '!']] ∧
      applyAll [emptying, marking] [['a'], ['b']] = [['b', '!']] ∧
      ∀ k ∈ applyAll [emptying, filling] [['a'], ['b']], k ≠ [] := by
  have hvalues : (do
      let emptying ← Substitution.compile ⟨Text.of "^a$", none⟩
      let filling ← Substitution.compile ⟨Text.of "^$", some ['x']⟩
      let marking ← Substitution.compile ⟨['b'], some (Text.of "b!")⟩
      return (applyAll [filling] (applyAll [emptying] [['a'], ['b']]),
        applyAll [emptying, filling] [['a'], ['b']], rewrite [marking] [],
        applyAll [marking] (applyAll [emptying] [['a'], ['b']]))) =
      Except.ok ([['b']], [['x'], ['b']], [], [['b', '!']]) := by decide +kernel
  obtain ⟨emptying, -, hvalues⟩ := Result.bind_eq_ok.mp hvalues
  obtain ⟨filling, -, hvalues⟩ := Result.bind_eq_ok.mp hvalues
  obtain ⟨marking, -, hvalues⟩ := Result.bind_eq_ok.mp hvalues
  simp only [pure, Except.pure, Except.ok.injEq, Prod.mk.injEq] at hvalues
  obtain ⟨hlost, hfilled, hempty, hmarked⟩ := hvalues
  obtain ⟨-, -, -, hkeys⟩ := applyAll_in_stages [emptying] [filling] [['a'], ['b']]
  obtain ⟨-, hsame, -⟩ := applyAll_in_stages [emptying] [marking] [['a'], ['b']]
  exact ⟨emptying, filling, marking, hlost, hfilled, hempty, hmarked,
    (hsame hempty).symm.trans hmarked, fun k hk => ((hkeys [emptying, filling]).2 k hk).1⟩

end WordingAudit.CompiledSubstitution
