import WordingAudit.Proofs.Lists
import WordingAudit.Proofs.Pattern.Occurrences

/-!
Where the groups of an occurrence are. A way through an expression sets slots at positions between
its two ends, and it leaves no group that it has begun without ending it, so every group that takes
part lies inside the occurrence.
-/

namespace WordingAudit.Pattern

/-- Slots, the latest first, that were set between two offsets; each group that was begun has been
ended since. -/
structure Settled (low high : Nat) (slots : List (Nat × Nat)) : Prop where
  between : ∀ x ∈ slots, low ≤ x.2 ∧ x.2 ≤ high
  ended : ∀ i start, slots.lookup (2 * i) = some start →
    ∃ stop, slots.lookup (2 * i + 1) = some stop ∧ start ≤ stop

namespace Settled

variable {low middle high : Nat} {earlier later : List (Nat × Nat)}

theorem nil : Settled low high [] :=
  ⟨fun _ hx => absurd hx List.not_mem_nil, fun _ _ h => nomatch h⟩

/-- What is set later comes from further on. -/
theorem append (hlater : Settled middle high later) (hearlier : Settled low middle earlier)
    (hlow : low ≤ middle) (hhigh : middle ≤ high) : Settled low high (later ++ earlier) := by
  constructor
  · intro x hx
    rcases List.mem_append.mp hx with hx | hx
    · have hbetween := hlater.between x hx
      omega
    · have hbetween := hearlier.between x hx
      omega
  · intro i start hstart
    rw [List.lookup_append] at hstart ⊢
    cases hbegun : later.lookup (2 * i) with
    | some v =>
        rw [hbegun, Option.some_or] at hstart
        obtain ⟨stop, hstop, hle⟩ := hlater.ended i v hbegun
        cases hstart
        exact ⟨stop, by rw [hstop, Option.some_or], hle⟩
    | none =>
        rw [hbegun, Option.none_or] at hstart
        obtain ⟨stop, hstop, hle⟩ := hearlier.ended i start hstart
        cases hended : later.lookup (2 * i + 1) with
        | none => exact ⟨stop, by rw [Option.none_or, hstop], hle⟩
        | some v =>
            have hv := (hlater.between _ (mem_of_lookup hended)).1
            have hs := (hearlier.between _ (mem_of_lookup hstart)).2
            exact ⟨v, by rw [Option.some_or], Nat.le_trans hs hv⟩

/-- A group around settled slots is settled. -/
theorem group {slots : List (Nat × Nat)} (h : Settled low high slots) (hle : low ≤ high)
    (index : Nat) :
    Settled low high ((2 * index + 1, high) :: (slots ++ [(2 * index, low)])) := by
  constructor
  · intro x hx
    rcases List.mem_cons.mp hx with rfl | hx
    · exact ⟨hle, Nat.le_refl high⟩
    · rcases List.mem_append.mp hx with hx | hx
      · exact h.between x hx
      · rw [List.mem_singleton.mp hx]
        exact ⟨Nat.le_refl low, hle⟩
  · intro i start hstart
    have hodd : (2 * i == 2 * index + 1) = false := beq_eq_false_iff_ne.mpr (by omega)
    have heven : (2 * i + 1 == 2 * index) = false := beq_eq_false_iff_ne.mpr (by omega)
    rw [List.lookup_cons, hodd, List.lookup_append] at hstart
    rw [List.lookup_cons]
    by_cases hi : i = index
    · rw [hi, beq_self_eq_true]
      refine ⟨high, rfl, ?_⟩
      cases hbegun : slots.lookup (2 * i) with
      | some v =>
          rw [hbegun] at hstart
          cases hstart
          exact (h.between _ (mem_of_lookup hbegun)).2
      | none =>
          rw [hbegun, hi, List.lookup_cons, beq_self_eq_true] at hstart
          cases hstart
          exact hle
    · have hsame : (2 * i + 1 == 2 * index + 1) = false := beq_eq_false_iff_ne.mpr (by omega)
      have hother : (2 * i == 2 * index) = false := beq_eq_false_iff_ne.mpr (by omega)
      rw [List.lookup_cons, hother, List.lookup_nil, Option.or_none] at hstart
      rw [hsame, List.lookup_append, List.lookup_cons, heven, List.lookup_nil, Option.or_none]
      exact h.ended i start hstart

end Settled

namespace Node

/-- Every way through the node settles its slots. -/
def Settles (n : Node) : Prop := ∀ c d s, n.Fits c d s → Settled c.offset d.offset s

variable {a b : Node}

theorem settles_empty : empty.Settles := by
  rintro c d s ⟨⟩
  exact .nil

theorem settles_seq (ha : a.Settles) (hb : b.Settles) : (seq a b).Settles := by
  intro c e s h
  cases h with
  | seq hfirst hsecond =>
      exact (hb _ _ _ hsecond).append (ha _ _ _ hfirst) hfirst.ahead.offset_le
        hsecond.ahead.offset_le

theorem settles_alt (ha : a.Settles) (hb : b.Settles) : (alt a b).Settles := by
  intro c d s h
  cases h with
  | altFirst hfirst => exact ha _ _ _ hfirst
  | altSecond hsecond => exact hb _ _ _ hsecond

theorem settles_star (greedy : Bool) (ha : a.Settles) : (star greedy a).Settles := by
  intro c d s h
  generalize hn : star greedy a = n at h
  induction h with
  | starNone => exact .nil
  | starMore hfirst hmore _ ih =>
      cases hn
      exact (ih rfl).append (ha _ _ _ hfirst) hfirst.ahead.offset_le hmore.ahead.offset_le
  | _ => cases hn

theorem settles_plus (greedy : Bool) (ha : a.Settles) : (plus greedy a).Settles := by
  intro c d s h
  generalize hn : plus greedy a = n at h
  induction h with
  | plusLast hlast =>
      cases hn
      exact ha _ _ _ hlast
  | plusMore hfirst hmore _ ih =>
      cases hn
      exact (ih rfl).append (ha _ _ _ hfirst) hfirst.ahead.offset_le hmore.ahead.offset_le
  | _ => cases hn

theorem settles_optional (greedy : Bool) (ha : a.Settles) : (optional greedy a).Settles := by
  cases greedy with
  | false => exact settles_alt settles_empty ha
  | true => exact settles_alt ha settles_empty

theorem settles_exactly (ha : a.Settles) (n : Nat) : (exactly a n).Settles := by
  induction n using exactly.induct with
  | case1 => exact settles_empty
  | case2 => exact ha
  | case3 n hn ih =>
      rw [exactly]
      · exact settles_seq ha ih
      · exact hn

theorem settles_upTo (greedy : Bool) (ha : a.Settles) (n : Nat) : (upTo greedy a n).Settles := by
  induction n with
  | zero => exact settles_empty
  | succ n ih => exact settles_optional greedy (settles_seq ha ih)

theorem settles_atLeast (greedy mayBeEmpty : Bool) (ha : a.Settles) (n : Nat) :
    (atLeast greedy mayBeEmpty a n).Settles := by
  rw [atLeast.eq_def]
  split
  · split
    · exact settles_optional greedy (settles_plus greedy ha)
    · exact settles_star greedy ha
  · exact settles_plus greedy ha
  · exact settles_seq (settles_exactly ha _) (settles_plus greedy ha)

/-- The marks of a group stand around everything that its body sets. -/
theorem settles_group (index : Nat) (ha : a.Settles) :
    (seq (mark (2 * index)) (seq a (mark (2 * index + 1)))).Settles := by
  intro c d s h
  cases h with
  | seq hstart hrest =>
      cases hstart
      cases hrest with
      | seq hbody hstop =>
          cases hstop
          exact (ha _ _ _ hbody).group hbody.ahead.offset_le index

theorem settles_ofExpr (e : Expr) : (ofExpr e).Settles := by
  induction e using ofExpr.induct with
  | case1 => exact settles_empty
  | case2 members =>
      rintro c d s ⟨⟩
      exact .nil
  | case3 condition =>
      rintro c d s ⟨⟩
      exact .nil
  | case4 least greedy body ih => exact settles_atLeast _ _ ih _
  | case5 most greedy body ih =>
      rw [ofExpr, if_pos rfl]
      exact settles_upTo _ ih _
  | case6 least most greedy body hleast ih =>
      rw [ofExpr, if_neg hleast]
      exact settles_seq (settles_exactly ih _) (settles_upTo _ ih _)
  | case7 index name body ih => exact settles_group index ih
  | case8 a b iha ihb => exact settles_seq iha ihb
  | case9 a b iha ihb => exact settles_alt iha ihb

end Node

variable {source t : Text} {p : Pattern} {m : Match}

/-- The whole occurrence is the group around all the others. -/
theorem settled_of_findAt (hp : ofText? source = some p) {c : Cursor}
    (h : p.findAt c = some m) : Settled m.span.start m.span.stop m.slots := by
  obtain ⟨e, hread, rfl⟩ := Option.map_eq_some_iff.mp hp
  obtain ⟨u, hu, -⟩ := Option.bind_eq_some_iff.mp h
  obtain ⟨start, slots, -, hfits, hslots, hfind⟩ := findAt_of_search rfl (named_read? hread) hu
  cases h.symm.trans hfind
  have hbody := Node.settles_ofExpr e start u.cursor slots hfits
  have hwhole := hbody.group hfits.ahead.offset_le 0
  rw [← hslots] at hwhole
  exact hwhole

theorem findAt_of_mem_occurrencesFrom {fuel : Nat} {c : Cursor} {last : Option Nat}
    (h : m ∈ p.occurrencesFrom fuel c last) : ∃ d, p.findAt d = some m := by
  induction fuel generalizing c last with
  | zero => cases h
  | succ fuel ih =>
      rw [occurrencesFrom] at h
      split at h
      · cases h
      · rename_i n hn
        split at h
        · split at h
          · cases h
          · exact ih h
        · rcases List.mem_cons.mp h with rfl | h
          · exact ⟨c, hn⟩
          · exact ih h

/-- A group that takes part in an occurrence lies inside it. -/
theorem group_inside (hp : ofText? source = some p) (hm : m ∈ p.occurrences t) {index : Nat}
    {s : Span} (hs : m.group? index = some s) : s.Inside m.span.start m.span.stop := by
  obtain ⟨d, hd⟩ := findAt_of_mem_occurrencesFrom hm
  have hsettled := settled_of_findAt hp hd
  rw [Match.group?] at hs
  split at hs
  · rename_i start stop hstart hstop
    cases hs
    obtain ⟨stop', hstop', hle⟩ := hsettled.ended index start hstart
    cases hstop.symm.trans hstop'
    have hlow := (hsettled.between _ (mem_of_lookup hstart)).1
    have hhigh := (hsettled.between _ (mem_of_lookup hstop)).2
    exact ⟨hlow, hle, hhigh⟩
  · cases hs

end WordingAudit.Pattern
