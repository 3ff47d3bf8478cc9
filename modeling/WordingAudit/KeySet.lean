import WordingAudit.Text

/-!
Sets of keys: each key once, in ascending order of code points.
-/

namespace WordingAudit

/-- Keys in strictly ascending order. -/
def KeySet.Ascending (keys : List Text) : Prop := keys.Pairwise (· < ·)

instance (keys : List Text) : Decidable (KeySet.Ascending keys) :=
  inferInstanceAs (Decidable (keys.Pairwise (· < ·)))

/-- A list of keys in strictly ascending order. -/
structure KeySet where
  toList : List Text
  ascending : KeySet.Ascending toList
deriving DecidableEq, Repr

namespace KeySet

/-- Puts a key in its place among ascending keys, unless it is there. -/
def insertSorted (key : Text) : List Text → List Text
  | [] => [key]
  | k :: rest =>
    if key < k then key :: k :: rest
    else if key = k then k :: rest
    else k :: insertSorted key rest

theorem mem_insertSorted {k key : Text} {keys : List Text} :
    k ∈ insertSorted key keys ↔ k = key ∨ k ∈ keys := by
  induction keys with
  | nil => simp [insertSorted]
  | cons first rest ih =>
      rw [insertSorted]
      split
      · simp
      · split
        · rename_i heq
          simp [heq]
        · simp only [List.mem_cons, ih]
          exact or_left_comm

theorem ascending_insertSorted (key : Text) {keys : List Text} (h : Ascending keys) :
    Ascending (insertSorted key keys) := by
  induction keys with
  | nil => exact List.pairwise_singleton _ _
  | cons first rest ih =>
      obtain ⟨hfirst, hrest⟩ := List.pairwise_cons.mp h
      rw [insertSorted]
      split
      · rename_i hlt
        refine List.pairwise_cons.mpr ⟨fun k hk => ?_, h⟩
        rcases List.mem_cons.mp hk with rfl | hk
        · exact hlt
        · exact List.lt_trans hlt (hfirst k hk)
      · rename_i hnlt
        split
        · exact h
        · rename_i hne
          have hlt : first < key := Decidable.byContradiction fun h =>
            hne (List.le_antisymm (List.not_lt.mp h) (List.not_lt.mp hnlt))
          refine List.pairwise_cons.mpr ⟨fun k hk => ?_, ih hrest⟩
          rcases mem_insertSorted.mp hk with rfl | hk
          · exact hlt
          · exact hfirst k hk

theorem ascending_foldr (keys : List Text) : Ascending (keys.foldr insertSorted []) := by
  induction keys with
  | nil => exact List.Pairwise.nil
  | cons key rest ih => exact ascending_insertSorted key ih

/-- The set of the keys of a list. -/
def ofList (keys : List Text) : KeySet := ⟨keys.foldr insertSorted [], ascending_foldr keys⟩

def size (s : KeySet) : Nat := s.toList.length

end KeySet

end WordingAudit
