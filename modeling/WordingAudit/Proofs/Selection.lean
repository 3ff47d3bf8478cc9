import WordingAudit.Proofs.Equivalence

/-!
A comparison splits the keys of a side in two: those with an equivalent on the other side and those
without. Neither the order of the keys nor how often one is listed matters for either part.
-/

namespace WordingAudit

/-- What belongs to a side. -/
def Side.pick {α : Type} (first second : α) : Side → α
  | .first => first
  | .second => second

namespace Comparison

variable {c : Comparison} {first second : List Text} {side : Side}

/-- The key of a side has an equivalent on the other side. Keys of the first list are the ones that
may hold tokens, whichever side is asked about. -/
def HasEquivalent (c : Comparison) (first second : List Text) : Side → Text → Prop
  | .first, key => ∃ server ∈ second, c.Equivalent key server
  | .second, server => ∃ key ∈ first, c.Equivalent key server

theorem mem_select {keep : Bool} {key : Text} :
    key ∈ (c.select first second side keep).value.toList ↔
      key ∈ side.pick first second ∧ (c.HasEquivalent first second side key ↔ keep = true) := by
  cases side with
  | first => exact mem_select_first
  | second => exact mem_select_second

theorem mem_diff {key : Text} :
    key ∈ (c.diff first second side).value.toList ↔
      key ∈ side.pick first second ∧ ¬c.HasEquivalent first second side key := by
  rw [diff, mem_select]
  simp

theorem mem_intersect {key : Text} :
    key ∈ (c.intersect first second side).value.toList ↔
      key ∈ side.pick first second ∧ c.HasEquivalent first second side key := by
  rw [intersect, mem_select]
  simp

section SameMembers

variable {first' second' : List Text} (hfirst : ∀ k, k ∈ first' ↔ k ∈ first)
  (hsecond : ∀ k, k ∈ second' ↔ k ∈ second)
include hfirst hsecond

theorem hasEquivalent_congr (key : Text) :
    c.HasEquivalent first' second' side key ↔ c.HasEquivalent first second side key := by
  cases side with
  | first => simp only [HasEquivalent, hsecond]
  | second => simp only [HasEquivalent, hfirst]

/-- Only the members of the two lists count. -/
theorem select_congr (keep : Bool) :
    (c.select first' second' side keep).value = (c.select first second side keep).value := by
  apply KeySet.eq_of_mem_iff
  intro key
  have hpick : key ∈ side.pick first' second' ↔ key ∈ side.pick first second := by
    cases side with
    | first => exact hfirst key
    | second => exact hsecond key
  rw [mem_select, mem_select, hpick, hasEquivalent_congr hfirst hsecond]

end SameMembers

/-- The keys of a side without an equivalent and those with one are both in ascending order, have no
key in common and together are all the keys of the side. -/
theorem select_partitions (c : Comparison) (first second : List Text) (side : Side) :
    (∀ key server, (c.isEquivalent (c.localKey key) server).value = true ↔
      c.Equivalent key server) ∧
    (∀ key, key ∈ (c.diff first second side).value.toList ↔
      key ∈ side.pick first second ∧ ¬c.HasEquivalent first second side key) ∧
    (∀ key, key ∈ (c.intersect first second side).value.toList ↔
      key ∈ side.pick first second ∧ c.HasEquivalent first second side key) ∧
    KeySet.Ascending (c.diff first second side).value.toList ∧
    KeySet.Ascending (c.intersect first second side).value.toList ∧
    (c.diff first second side).value.toList.Disjoint
      (c.intersect first second side).value.toList ∧
    KeySet.ofList ((c.diff first second side).value.toList ++
      (c.intersect first second side).value.toList) =
        KeySet.ofList (side.pick first second) ∧
    ∀ first' second', (∀ k, k ∈ first' ↔ k ∈ first) → (∀ k, k ∈ second' ↔ k ∈ second) →
      (c.diff first' second' side).value = (c.diff first second side).value ∧
        (c.intersect first' second' side).value = (c.intersect first second side).value := by
  refine ⟨fun _ _ => isEquivalent_value, fun _ => mem_diff, fun _ => mem_intersect,
    (c.diff first second side).value.ascending, (c.intersect first second side).value.ascending,
    ?_, ?_, ?_⟩
  · intro key hdiff hintersect
    exact (mem_diff.mp hdiff).2 (mem_intersect.mp hintersect).2
  · apply KeySet.eq_of_mem_iff
    intro key
    rw [KeySet.mem_ofList, KeySet.mem_ofList, List.mem_append, mem_diff, mem_intersect,
      ← and_or_left]
    exact and_iff_left (Classical.em _).symm
  · intro first' second' hfirst hsecond
    exact ⟨select_congr hfirst hsecond false, select_congr hfirst hsecond true⟩

/-- Keys listed in another order, one of them twice, and a token that covers two keys. -/
theorem select_partitions_sample :
    ∃ p, Pattern.ofText? (Text.of "\\*") = some p ∧
      let c : Comparison := ⟨some p, false⟩
      (∀ k, k ∈ [Text.of "b", Text.of "a.*", Text.of "b"] ↔ k ∈ [Text.of "a.*", Text.of "b"]) ∧
      (c.diff [Text.of "b", Text.of "a.*", Text.of "b"]
        [Text.of "d", Text.of "a.2", Text.of "c", Text.of "a.1", Text.of "c"] .second).value =
          ⟨[Text.of "c", Text.of "d"], by decide⟩ ∧
      (c.intersect [Text.of "b", Text.of "a.*", Text.of "b"]
        [Text.of "d", Text.of "a.2", Text.of "c", Text.of "a.1", Text.of "c"] .second).value =
          ⟨[Text.of "a.1", Text.of "a.2"], by decide⟩ := by
  have hvalues : ((Pattern.ofText? (Text.of "\\*")).map fun p =>
      let c : Comparison := ⟨some p, false⟩
      let first := [Text.of "a.*", Text.of "b"]
      let second := [Text.of "a.1", Text.of "a.2", Text.of "c", Text.of "d"]
      ((c.diff first second .second).value, (c.intersect first second .second).value)) =
        some (⟨[Text.of "c", Text.of "d"], by decide⟩,
          ⟨[Text.of "a.1", Text.of "a.2"], by decide⟩) := by
    decide +kernel
  obtain ⟨p, hp, hvalues⟩ := Option.map_eq_some_iff.mp hvalues
  obtain ⟨hdiff, hintersect⟩ := Prod.mk.inj hvalues
  have hfirst : ∀ k, k ∈ [Text.of "b", Text.of "a.*", Text.of "b"] ↔
      k ∈ [Text.of "a.*", Text.of "b"] := by
    intro k
    simp only [List.mem_cons, List.not_mem_nil, or_false]
    tauto
  have hsecond : ∀ k,
      k ∈ [Text.of "d", Text.of "a.2", Text.of "c", Text.of "a.1", Text.of "c"] ↔
        k ∈ [Text.of "a.1", Text.of "a.2", Text.of "c", Text.of "d"] := by
    intro k
    simp only [List.mem_cons, List.not_mem_nil, or_false]
    tauto
  obtain ⟨-, -, -, -, -, -, -, hsame⟩ := select_partitions ⟨some p, false⟩
    [Text.of "a.*", Text.of "b"]
    [Text.of "a.1", Text.of "a.2", Text.of "c", Text.of "d"] .second
  obtain ⟨hdiff', hintersect'⟩ := hsame _ _ hfirst hsecond
  exact ⟨p, hp, hfirst, hdiff'.trans hdiff, hintersect'.trans hintersect⟩

end Comparison

end WordingAudit
