import Mathlib.Data.List.Induction
import Mathlib.Data.List.Nodup
import WordingAudit.Proofs.KeySet
import WordingAudit.Wordings.Entries

/-!
The entries that a list of pairs comes to: the keys of the pairs in ascending order, each once, with
the value of the last pair that has it.
-/

namespace WordingAudit.Entries

open KeySet (Ascending)

variable {entries : Entries} {pairs : List (Text × Json)} {key : Text} {value : Json}
  {e : Text × Json}

theorem keys_insert (key : Text) (value : Json) (entries : Entries) :
    keys (insert key value entries) = KeySet.insertSorted key entries.keys := by
  induction entries with
  | nil => rfl
  | cons first rest ih =>
      obtain ⟨k, v⟩ := first
      have hcons : keys ((k, v) :: rest) = k :: keys rest := rfl
      rw [insert, hcons, KeySet.insertSorted]
      by_cases hlt : key < k
      · rw [if_pos hlt, if_pos hlt]
        rfl
      · rw [if_neg hlt, if_neg hlt]
        by_cases heq : key = k
        · rw [if_pos heq, if_pos heq, heq]
          rfl
        · rw [if_neg heq, if_neg heq, ← ih]
          rfl

theorem ascending_insert (key : Text) (value : Json) (h : Ascending entries.keys) :
    Ascending (insert key value entries).keys := by
  rw [keys_insert]
  exact KeySet.ascending_insertSorted key h

/-- An entry is there after a key is set if it is the new one, or an old one with another key. -/
theorem mem_insert (h : Ascending entries.keys) :
    e ∈ insert key value entries ↔ e = (key, value) ∨ e.1 ≠ key ∧ e ∈ entries := by
  induction entries with
  | nil => simp [insert]
  | cons first rest ih =>
      obtain ⟨k, v⟩ := first
      obtain ⟨hbelow, hrest⟩ : (∀ k' ∈ keys rest, k < k') ∧ Ascending (keys rest) :=
        List.pairwise_cons.mp h
      have habove : e ∈ rest → k < e.1 := fun he => hbelow e.1 (List.mem_map_of_mem he)
      rw [insert]
      by_cases hlt : key < k
      · rw [if_pos hlt, List.mem_cons]
        apply or_congr_right
        constructor
        · intro he
          refine ⟨?_, he⟩
          rcases List.mem_cons.mp he with rfl | he
          · exact ne_of_gt hlt
          · exact ne_of_gt (List.lt_trans hlt (habove he))
        · exact And.right
      · rw [if_neg hlt]
        by_cases heq : key = k
        · subst heq
          rw [if_pos rfl, List.mem_cons, List.mem_cons]
          apply or_congr_right
          constructor
          · intro he
            exact ⟨ne_of_gt (habove he), .inr he⟩
          · rintro ⟨hne, rfl | he⟩
            · exact absurd rfl hne
            · exact he
        · rw [if_neg heq, List.mem_cons, List.mem_cons, ih hrest]
          constructor
          · rintro (rfl | rfl | ⟨hne, he⟩)
            · exact .inr ⟨Ne.symm heq, .inl rfl⟩
            · exact .inl rfl
            · exact .inr ⟨hne, .inr he⟩
          · rintro (rfl | ⟨hne, rfl | he⟩)
            · exact .inr (.inl rfl)
            · exact .inl rfl
            · exact .inr (.inr ⟨hne, he⟩)

theorem ofList_append_singleton (pairs : List (Text × Json)) (p : Text × Json) :
    ofList (pairs ++ [p]) = insert p.1 p.2 (ofList pairs) := by
  rw [ofList, List.foldl_append]
  rfl

theorem ascending_ofList (pairs : List (Text × Json)) : Ascending (ofList pairs).keys := by
  induction pairs using List.reverseRecOn with
  | nil => exact List.Pairwise.nil
  | append_singleton init p ih =>
      rw [ofList_append_singleton]
      exact ascending_insert p.1 p.2 ih

/-- Of the pairs with a key the last one counts. -/
theorem mem_ofList :
    (key, value) ∈ ofList pairs ↔ ∃ before after, pairs = before ++ (key, value) :: after ∧
      ∀ p ∈ after, p.1 ≠ key := by
  induction pairs using List.reverseRecOn with
  | nil => simp [ofList]
  | append_singleton init last ih =>
      obtain ⟨lastKey, lastValue⟩ := last
      rw [ofList_append_singleton, mem_insert (ascending_ofList init), ih]
      constructor
      · rintro (heq | ⟨hne, before, after, rfl, hafter⟩)
        · cases heq
          exact ⟨init, [], rfl, fun p hp => absurd hp List.not_mem_nil⟩
        · refine ⟨before, after ++ [(lastKey, lastValue)], by simp, fun p hp => ?_⟩
          rcases List.mem_append.mp hp with hp | hp
          · exact hafter p hp
          · rw [List.mem_singleton.mp hp]
            exact Ne.symm hne
      · rintro ⟨before, after, hsplit, hafter⟩
        cases after using List.reverseRecOn with
        | nil =>
            obtain ⟨-, hlast⟩ := List.append_singleton_inj.mp hsplit
            exact .inl hlast.symm
        | append_singleton middle p =>
            rw [← List.cons_append, ← List.append_assoc] at hsplit
            obtain ⟨rfl, rfl⟩ := List.append_singleton_inj.mp hsplit
            have hlast : lastKey ≠ key := hafter (lastKey, lastValue) (by simp)
            refine .inr ⟨Ne.symm hlast, before, middle, rfl, fun p hp => ?_⟩
            exact hafter p (List.mem_append_left _ hp)

theorem mem_keys_ofList : key ∈ (ofList pairs).keys ↔ key ∈ pairs.map (·.1) := by
  induction pairs using List.reverseRecOn with
  | nil => simp [ofList, keys]
  | append_singleton init last ih =>
      rw [ofList_append_singleton, keys_insert, KeySet.mem_insertSorted, ih]
      simp [or_comm]

/-- Pairs with different keys are the entries themselves, up to their order. -/
theorem perm_ofList (h : (pairs.map (·.1)).Nodup) : (ofList pairs).Perm pairs := by
  -- neither list has a pair twice, so it is enough that they have the same members
  have hkeys : ((ofList pairs).map (·.1)).Nodup := (ascending_ofList pairs).nodup
  rw [List.perm_ext_iff_of_nodup (hkeys.of_map _) (h.of_map _)]
  rintro ⟨key, value⟩
  rw [mem_ofList]
  constructor
  · rintro ⟨before, after, rfl, -⟩
    simp
  · intro hmem
    obtain ⟨before, after, rfl⟩ := List.append_of_mem hmem
    refine ⟨before, after, rfl, fun p hp heq => ?_⟩
    rw [List.map_append, List.map_cons] at h
    have hrest : key ∉ after.map (·.1) := (List.nodup_cons.mp (List.nodup_append.mp h).2.1).1
    exact hrest (heq ▸ List.mem_map_of_mem hp)

/-- Entries that are in order are known by what they hold. -/
theorem eq_of_perm {others : Entries} (h : Ascending entries.keys) (hothers : Ascending others.keys)
    (hperm : entries.Perm others) : entries = others := by
  refine hperm.eq_of_pairwise (fun a b _ _ hab hba => ?_) (List.pairwise_map.mp h)
    (List.pairwise_map.mp hothers)
  exact absurd (List.lt_trans hab hba) (List.lt_irrefl _)

end WordingAudit.Entries
