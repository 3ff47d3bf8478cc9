import WordingAudit.Proofs.Pattern.Code

/-!
The search of a program answers a way to success if there is one. What has been followed already
can only succeed through a thread that still waits, by a shorter way, and every thread that is
followed uses up a pair of an address and a position.
-/

namespace WordingAudit.Pattern.Program

/-- The thread gets to success in the number of steps. -/
def Succeeds (p : Program) (k : Nat) (t : Thread) : Prop :=
  ∃ u, p.Steps k t u ∧ p[u.address]? = none

/-- No instruction leads further than to the address after the last one. -/
def Closed (p : Program) : Prop := ∀ i ∈ p, ∀ x ∈ i.targets, x ≤ p.size

/-- The thread is at an address of the program and at a position of the text after `c`. -/
structure Within (p : Program) (c : Cursor) (t : Thread) : Prop where
  address : t.address ≤ p.size
  cursor : c.Ahead t.cursor

/-- The number that stands for the address and the position of a thread. -/
def key (p : Program) (t : Thread) : Nat := t.cursor.offset * (p.size + 1) + t.address

variable {p : Program} {c : Cursor} {t u : Thread} {waiting : List Thread} {seen : Std.TreeSet Nat}

theorem Succeeds.congr {k : Nat} (h : p.Succeeds k t) (haddress : t.address = u.address)
    (hcursor : t.cursor = u.cursor) : p.Succeeds k u := by
  obtain ⟨v, hsteps, hstop⟩ := h
  induction hsteps generalizing u with
  | refl => exact ⟨u, .refl, haddress ▸ hstop⟩
  | step hi hv _ ih =>
      obtain ⟨v', hv', haddress', hcursor'⟩ := Instruction.successors_congr hcursor hv
      obtain ⟨w, hsteps, hw⟩ := ih haddress' hcursor' hstop
      exact ⟨w, .step (haddress ▸ hi) hv' hsteps, hw⟩

theorem Succeeds.successor {k : Nat} {i : Instruction} (h : p.Succeeds k t)
    (hi : p[t.address]? = some i) : ∃ u ∈ i.successors t, ∃ j < k, p.Succeeds j u := by
  obtain ⟨v, hsteps, hstop⟩ := h
  obtain ⟨j, u, rfl, hu, hrest⟩ := hsteps.cases_head hi hstop
  exact ⟨u, hu, j, Nat.lt_succ_self j, v, hrest, hstop⟩

theorem Within.successor {i : Instruction} (ht : p.Within c t) (hp : p.Closed)
    (hi : p[t.address]? = some i) (hu : u ∈ i.successors t) : p.Within c u := by
  obtain ⟨htarget, hahead⟩ := Instruction.successors_spec hu
  exact ⟨hp i (Array.mem_of_getElem? hi) _ htarget, ht.cursor.trans hahead⟩

theorem key_div (ht : p.Within c t) : p.key t / (p.size + 1) = t.cursor.offset := by
  have hlt := Nat.lt_succ_of_le ht.address
  rw [key, Nat.mul_comm, Nat.mul_add_div (Nat.succ_pos _), Nat.div_eq_of_lt hlt, Nat.add_zero]

theorem key_mod (ht : p.Within c t) : p.key t % (p.size + 1) = t.address := by
  rw [key, Nat.mul_comm, Nat.mul_add_mod, Nat.mod_eq_of_lt (Nat.lt_succ_of_le ht.address)]

/-- Threads with one number are at one address and one position. -/
theorem eq_of_key_eq (ht : p.Within c t) (hu : p.Within c u) (h : p.key t = p.key u) :
    t.address = u.address ∧ t.cursor = u.cursor := by
  refine ⟨?_, ht.cursor.eq_of_offset hu.cursor ?_⟩
  · rw [← key_mod ht, ← key_mod hu, h]
  · rw [← key_div ht, ← key_div hu, h]

/-- How many pairs of an address and a position there are from `c` on. -/
def capacity (p : Program) (c : Cursor) : Nat := (c.after.length + 1) * (p.size + 1)

theorem key_range (ht : p.Within c t) :
    c.offset * (p.size + 1) ≤ p.key t ∧ p.key t < c.offset * (p.size + 1) + p.capacity c := by
  have hlow := ht.cursor.offset_le
  have hhigh := ht.cursor.offset_add_length
  rw [capacity, ← Nat.add_mul]
  refine ⟨Nat.le_trans (Nat.mul_le_mul_right _ hlow) (Nat.le_add_right _ _), ?_⟩
  calc p.key t < t.cursor.offset * (p.size + 1) + (p.size + 1) :=
        Nat.add_lt_add_left (Nat.lt_succ_of_le ht.address) _
    _ = (t.cursor.offset + 1) * (p.size + 1) := (Nat.succ_mul _ _).symm
    _ ≤ (c.offset + (c.after.length + 1)) * (p.size + 1) := Nat.mul_le_mul_right _ (by omega)

/-- What holds while threads wait and others have been followed. -/
structure Searching (p : Program) (c : Cursor) (waiting : List Thread) (seen : Std.TreeSet Nat) :
    Prop where
  within : ∀ t ∈ waiting, p.Within c t
  range : ∀ x ∈ seen, ∃ t, p.Within c t ∧ p.key t = x
  shorter : ∀ t k, p.Within c t → p.key t ∈ seen → p.Succeeds k t →
    ∃ u ∈ waiting, ∃ j < k, p.Succeeds j u

namespace Searching

theorem size_le (h : p.Searching c waiting seen) : seen.size ≤ p.capacity c := by
  have hnodup : seen.toList.Nodup := by
    refine seen.distinct_toList.imp fun hne heq => hne ?_
    rw [heq, Nat.compare_eq_eq]
  have hsubset : seen.toList ⊆ List.range' (c.offset * (p.size + 1)) (p.capacity c) := by
    intro x hx
    obtain ⟨t, ht, rfl⟩ := h.range x (Std.TreeSet.mem_toList.mp hx)
    rw [List.mem_range'_1]
    exact key_range ht
  have hle := hnodup.length_le_of_subset hsubset
  rw [Std.TreeSet.length_toList, List.length_range'] at hle
  exact hle

/-- Success through a thread whose number is used up is reached through another one as well. -/
theorem succeeds_of_seen {k : Nat} (h : p.Searching c (t :: waiting) seen) (ht : p.key t ∈ seen)
    (hu : u ∈ t :: waiting) (hk : p.Succeeds k u) : ∃ v ∈ waiting, ∃ j ≤ k, p.Succeeds j v := by
  -- the shorter way may begin at `t` again, but not for ever
  induction k using Nat.strongRecOn generalizing u with
  | _ k ih =>
      rcases List.mem_cons.mp hu with rfl | hu
      · obtain ⟨v, hv, j, hj, hsucceeds⟩ := h.shorter u k (h.within u List.mem_cons_self) ht hk
        obtain ⟨w, hw, i, hi, hsucceeds⟩ := ih j hj hv hsucceeds
        exact ⟨w, hw, i, by omega, hsucceeds⟩
      · exact ⟨u, hu, k, Nat.le_refl k, hk⟩

theorem succeeds_of_follow {k : Nat} {i : Instruction} (hi : p[t.address]? = some i)
    (hu : u ∈ t :: waiting) (hk : p.Succeeds k u) :
    ∃ v ∈ i.successors t ++ waiting, ∃ j ≤ k, p.Succeeds j v := by
  rcases List.mem_cons.mp hu with rfl | hu
  · obtain ⟨v, hv, j, hj, hsucceeds⟩ := hk.successor hi
    exact ⟨v, List.mem_append_left _ hv, j, Nat.le_of_lt hj, hsucceeds⟩
  · exact ⟨u, List.mem_append_right _ hu, k, Nat.le_refl k, hk⟩

theorem skip (h : p.Searching c (t :: waiting) seen) (ht : p.key t ∈ seen) :
    p.Searching c waiting seen := by
  refine ⟨fun u hu => h.within u (List.mem_cons_of_mem t hu), h.range, fun v k hv hseen hk => ?_⟩
  obtain ⟨u, hu, j, hj, hsucceeds⟩ := h.shorter v k hv hseen hk
  obtain ⟨w, hw, i, hi, hsucceeds⟩ := h.succeeds_of_seen ht hu hsucceeds
  exact ⟨w, hw, i, by omega, hsucceeds⟩

/-- A thread that has not succeeded is followed: its successors wait in its place. -/
theorem follow {i : Instruction} (h : p.Searching c (t :: waiting) seen) (hp : p.Closed)
    (hi : p[t.address]? = some i) :
    p.Searching c (i.successors t ++ waiting) (seen.insert (p.key t)) := by
  have hwithin := h.within t List.mem_cons_self
  refine ⟨fun u hu => ?_, fun x hx => ?_, fun v k hv hseen hk => ?_⟩
  · rcases List.mem_append.mp hu with hu | hu
    · exact hwithin.successor hp hi hu
    · exact h.within u (List.mem_cons_of_mem t hu)
  · rcases Std.TreeSet.mem_insert.mp hx with heq | hx
    · exact ⟨t, hwithin, Nat.compare_eq_eq.mp heq⟩
    · exact h.range x hx
  · rcases Std.TreeSet.mem_insert.mp hseen with heq | hseen
    · obtain ⟨haddress, hcursor⟩ := eq_of_key_eq hv hwithin (Nat.compare_eq_eq.mp heq).symm
      obtain ⟨u, hu, j, hj, hsucceeds⟩ := (hk.congr haddress hcursor).successor hi
      exact ⟨u, List.mem_append_left _ hu, j, hj, hsucceeds⟩
    · obtain ⟨u, hu, j, hj, hsucceeds⟩ := h.shorter v k hv hseen hk
      obtain ⟨w, hw, i', hi', hsucceeds⟩ := succeeds_of_follow hi hu hsucceeds
      exact ⟨w, hw, i', by omega, hsucceeds⟩

end Searching

/-- What the search answers is a success that one of the waiting threads gets to. -/
theorem steps_of_run {fuel : Nat} (h : p.run fuel waiting seen = some u) :
    ∃ t ∈ waiting, ∃ k, p.Steps k t u ∧ p[u.address]? = none := by
  induction fuel generalizing waiting seen with
  | zero => cases h
  | succ fuel ih =>
      cases waiting with
      | nil => cases h
      | cons t waiting =>
          rw [run] at h
          split at h
          · obtain ⟨v, hv, hsteps⟩ := ih h
            exact ⟨v, List.mem_cons_of_mem t hv, hsteps⟩
          · split at h
            · rename_i hstop
              cases h
              exact ⟨_, List.mem_cons_self, 0, .refl, hstop⟩
            · rename_i i hi
              obtain ⟨v, hv, k, hsteps, hstop⟩ := ih h
              rcases List.mem_append.mp hv with hv | hv
              · exact ⟨t, List.mem_cons_self, k + 1, .step hi hv hsteps, hstop⟩
              · exact ⟨v, List.mem_cons_of_mem t hv, k, hsteps, hstop⟩

/-- If a waiting thread gets to success and there is fuel for all pairs, the search answers. -/
theorem run_isSome {fuel k : Nat} (hp : p.Closed) (h : p.Searching c waiting seen)
    (ht : t ∈ waiting) (hk : p.Succeeds k t)
    (hfuel : waiting.length + 2 * (p.capacity c - seen.size) < fuel) :
    (p.run fuel waiting seen).isSome = true := by
  induction fuel generalizing waiting seen t k with
  | zero => exact absurd hfuel (Nat.not_lt_zero _)
  | succ fuel ih =>
      cases waiting with
      | nil => cases ht
      | cons v waiting =>
          rw [List.length_cons] at hfuel
          rw [run]
          split
          · rename_i hseen
            have hmem : p.key v ∈ seen := Std.TreeSet.contains_iff_mem.mp hseen
            obtain ⟨u, hu, j, -, hj⟩ := h.succeeds_of_seen hmem ht hk
            exact ih (h.skip hmem) hu hj (by omega)
          · rename_i hseen
            split
            · rfl
            · rename_i i hi
              have hfollow := h.follow hp hi
              have hsize := hfollow.size_le
              have hinsert : (seen.insert (p.key v)).size = seen.size + 1 :=
                Std.TreeSet.size_insert.trans (if_neg hseen)
              have hlength := i.length_successors_le v
              obtain ⟨u, hu, j, -, hj⟩ := Searching.succeeds_of_follow hi ht hk
              have hless : (i.successors v ++ waiting).length +
                  2 * (p.capacity c - (seen.insert (p.key v)).size) < fuel := by
                rw [List.length_append]
                omega
              exact ih hfollow hu hj hless

/-- A search from `c` answers exactly when the first instruction leads to success. -/
theorem search_isSome (hp : p.Closed) :
    (p.search c).isSome = true ↔ ∃ k, p.Succeeds k ⟨0, c, []⟩ := by
  constructor
  · intro h
    obtain ⟨u, hu⟩ := Option.isSome_iff_exists.mp h
    obtain ⟨t, ht, k, hsteps, hstop⟩ := steps_of_run hu
    obtain rfl := List.mem_singleton.mp ht
    exact ⟨k, u, hsteps, hstop⟩
  · rintro ⟨k, hk⟩
    have hstart : p.Searching c [⟨0, c, []⟩] ∅ := by
      refine ⟨fun t ht => ?_, fun x hx => absurd hx Std.TreeSet.not_mem_emptyc,
        fun t k _ hseen => absurd hseen Std.TreeSet.not_mem_emptyc⟩
      obtain rfl := List.mem_singleton.mp ht
      exact ⟨Nat.zero_le _, .refl c⟩
    refine run_isSome hp hstart List.mem_cons_self hk ?_
    have hfuel : 2 * p.capacity c = 2 * (p.size + 1) * (c.after.length + 1) := by
      rw [capacity, Nat.mul_comm (c.after.length + 1), Nat.mul_assoc]
    rw [← hfuel, Std.TreeSet.size_emptyc, List.length_singleton]
    omega

end WordingAudit.Pattern.Program
