import WordingAudit.Comparison
import WordingAudit.Proofs.KeySet
import WordingAudit.Proofs.Traced

/-!
When a project key and a wordings key count as the same, as a relation, and a comparison as the
choice of the keys of one side that stand in that relation to a key of the other.
-/

namespace WordingAudit

namespace Text

theorem contains_eq_true {t part : Text} : contains t part = true ↔ part <:+: t := by
  induction t with
  | nil => simp [contains]
  | cons c rest ih =>
      rw [contains, Bool.or_eq_true, ih, List.isPrefixOf_iff_prefix, List.infix_cons_iff]

end Text

namespace Comparison

/-- The project key `key` counts as the same as the wordings key `server`: they are equal, the
pattern of `key` occurs in `server`, or `key` is a part of `server` where that is enough. -/
def Equivalent (c : Comparison) (key server : Text) : Prop :=
  key = server ∨ (∃ p, c.localPattern? key = some p ∧ p.occursIn server = true) ∨
    (c.acceptPart = true ∧ key <:+: server)

theorem ofSettings_some (token : Text) (part : Bool) :
    ofSettings (some token) part = (compilePattern token).map fun p => ⟨some p, part⟩ := by
  have hvalue : ofSettings (some token) part = do
      let p ← (some token).mapM compilePattern
      return ⟨p, part⟩ := rfl
  rw [hvalue, Option.mapM_some]
  cases compilePattern token <;> rfl

theorem covers_localKey {c : Comparison} {key server : Text} :
    LocalKey.covers (c.localKey key) server = true ↔
      ∃ p, c.localPattern? key = some p ∧ p.occursIn server = true := by
  rw [LocalKey.covers, localKey]
  cases c.localPattern? key with
  | none => simp
  | some p => simp

theorem isEquivalent_value {c : Comparison} {key server : Text} :
    (c.isEquivalent (c.localKey key) server).value = true ↔ c.Equivalent key server := by
  have hkey : (c.localKey key).key = key := rfl
  rw [isEquivalent, Equivalent, ← covers_localKey, hkey]
  split
  · rename_i heq
    simp [heq]
  · rename_i hne
    split
    · rename_i hcovers
      simp [hcovers]
    · rename_i hcovers
      simp [hne, hcovers, Text.contains_eq_true]

/-- The keys of `first` that have an equal in `second`, or, when `keep` is false, that have none. -/
theorem mem_select_first {c : Comparison} {first second : List Text} {keep : Bool} {key : Text} :
    key ∈ (c.select first second .first keep).value.toList ↔
      key ∈ first ∧ ((∃ server ∈ second, c.Equivalent key server) ↔ keep = true) := by
  simp only [select, Traced.value_bind, Traced.value_pure, Traced.value_filter, Traced.value_any,
    KeySet.mem_ofList, List.mem_map, List.mem_filter]
  constructor
  · rintro ⟨l, ⟨⟨key', hmem, rfl⟩, htest⟩, rfl⟩
    refine ⟨hmem, ?_⟩
    rw [beq_iff_eq] at htest
    rw [← htest, List.any_eq_true]
    simp only [isEquivalent_value]
    rfl
  · rintro ⟨hmem, htest⟩
    refine ⟨c.localKey key, ⟨⟨key, hmem, rfl⟩, ?_⟩, rfl⟩
    rw [beq_iff_eq, Bool.eq_iff_iff, ← htest, List.any_eq_true]
    simp only [isEquivalent_value]

theorem mem_select_second {c : Comparison} {first second : List Text} {keep : Bool} {key : Text} :
    key ∈ (c.select first second .second keep).value.toList ↔
      key ∈ second ∧ ((∃ l ∈ first, c.Equivalent l key) ↔ keep = true) := by
  simp only [select, Traced.value_bind, Traced.value_pure, Traced.value_filter, Traced.value_any,
    KeySet.mem_ofList, List.mem_filter]
  have hfound : (∃ l ∈ first.map c.localKey, (c.isEquivalent l key).value = true) ↔
      ∃ l ∈ first, c.Equivalent l key := by
    constructor
    · rintro ⟨_, hl, h⟩
      obtain ⟨l, hmem, rfl⟩ := List.mem_map.mp hl
      exact ⟨l, hmem, isEquivalent_value.mp h⟩
    · rintro ⟨l, hmem, h⟩
      exact ⟨c.localKey l, List.mem_map_of_mem hmem, isEquivalent_value.mpr h⟩
  rw [beq_iff_eq, Bool.eq_iff_iff, List.any_eq_true, hfound]

end Comparison

end WordingAudit
