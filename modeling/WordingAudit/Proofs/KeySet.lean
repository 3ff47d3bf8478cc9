import Mathlib.Data.Char
import Mathlib.Data.List.Lex
import Mathlib.Data.List.Sort
import WordingAudit.KeySet

/-!
The set of the keys of a list has the members of the list, and a set is known by its members.
-/

namespace WordingAudit.KeySet

theorem Ascending.nodup {keys : List Text} (h : Ascending keys) : keys.Nodup :=
  h.imp fun hlt => ne_of_lt hlt

@[simp] theorem mem_ofList {k : Text} {keys : List Text} : k ∈ (ofList keys).toList ↔ k ∈ keys := by
  induction keys with
  | nil => simp [ofList]
  | cons key rest ih =>
      rw [List.mem_cons, ← ih]
      exact mem_insertSorted

theorem eq_of_mem_iff {s t : KeySet} (h : ∀ k, k ∈ s.toList ↔ k ∈ t.toList) : s = t := by
  obtain ⟨keys, hs⟩ := s
  obtain ⟨others, ht⟩ := t
  obtain rfl : keys = others := List.Pairwise.eq_of_mem_iff hs ht h
  rfl

end WordingAudit.KeySet
