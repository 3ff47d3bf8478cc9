import WordingAudit.Proofs.Pattern.Fits

/-!
The code of a node does what the node describes. A way through the node is a run of its instructions
from their first address to the one they go on at, and a run that succeeds passes that address.
-/

namespace WordingAudit.Pattern

namespace Program

/-- `u` comes after `t` in the number of instructions. -/
inductive Steps (p : Program) : Nat → Thread → Thread → Prop
  | refl {t : Thread} : Steps p 0 t t
  | step {i : Instruction} {k : Nat} {t u v : Thread} (hi : p[t.address]? = some i)
      (hu : u ∈ i.successors t) (hrest : Steps p k u v) : Steps p (k + 1) t v

theorem Steps.single {p : Program} {i : Instruction} {t u : Thread} (hi : p[t.address]? = some i)
    (hu : u ∈ i.successors t) : p.Steps 1 t u :=
  .step hi hu .refl

theorem Steps.trans {p : Program} {j k : Nat} {t u v : Thread} (h : p.Steps j t u)
    (h' : p.Steps k u v) : p.Steps (k + j) t v := by
  induction h with
  | refl => exact h'
  | step hi hu _ ih => exact .step hi hu (ih h')

/-- A thread that has not succeeded yet takes a step. -/
theorem Steps.cases_head {p : Program} {i : Instruction} {k : Nat} {t u : Thread}
    (h : p.Steps k t u) (hi : p[t.address]? = some i) (hu : p[u.address]? = none) :
    ∃ j v, k = j + 1 ∧ v ∈ i.successors t ∧ p.Steps j v u := by
  cases h with
  | refl =>
      rw [hi] at hu
      cases hu
  | step hi' hv hrest =>
      cases hi.symm.trans hi'
      exact ⟨_, _, rfl, hv, hrest⟩

/-- The instructions stand in the program from an address on. -/
def Holds (p : Program) (start : Nat) (code : List Instruction) : Prop :=
  code <+: p.toList.drop start

theorem Holds.left {p : Program} {start : Nat} {a b : List Instruction}
    (h : p.Holds start (a ++ b)) : p.Holds start a :=
  (List.prefix_append a b).trans h

theorem Holds.right {p : Program} {start : Nat} {a b : List Instruction}
    (h : p.Holds start (a ++ b)) : p.Holds (start + a.length) b := by
  obtain ⟨rest, hrest⟩ := h
  have hdrop : (p.toList.drop start).drop a.length = b ++ rest := by
    rw [← hrest, List.append_assoc, List.drop_left]
  exact ⟨rest, by rw [← hdrop, List.drop_drop]⟩

theorem Holds.head {p : Program} {start : Nat} {i : Instruction} {code : List Instruction}
    (h : p.Holds start (i :: code)) : p[start]? = some i := by
  have hhead : (p.toList.drop start).head? = some i := by
    obtain ⟨rest, hrest⟩ := h
    rw [← hrest]
    rfl
  rw [List.head?_drop] at hhead
  rw [← hhead, Array.getElem?_toList]

/-- The instruction that a thread finds at the beginning of the code. -/
theorem Holds.found {p : Program} {start : Nat} {i : Instruction} {code : List Instruction}
    (h : p.Holds start (i :: code)) {t : Thread} (ht : t.address = start) :
    p[t.address]? = some i := by
  rw [ht]
  exact h.head

theorem Holds.tail {p : Program} {start : Nat} {i : Instruction} {code : List Instruction}
    (h : p.Holds start (i :: code)) : p.Holds (start + 1) code :=
  Holds.right (a := [i]) h

end Program

namespace Node

theorem length_code (n : Node) (next start : Nat) : (n.code next start).length = n.size := by
  induction n generalizing next start with
  | empty => rfl
  | one members => rfl
  | look condition => rfl
  | mark slot => rfl
  | seq a b iha ihb => rw [code, List.length_append, iha, ihb, size]
  | alt a b iha ihb => rw [code, List.length_cons, List.length_append, iha, ihb, size]
  | star greedy a ih => rw [code, List.length_cons, ih, size]
  | plus greedy a ih => rw [code, List.length_append, ih, size]; rfl

end Node

theorem Instruction.mem_successors_loop {greedy : Bool} {again leave : Nat} {t u : Thread} :
    u ∈ (Instruction.loop greedy again leave).successors t ↔
      u = { t with address := again } ∨ u = { t with address := leave } := by
  cases greedy with
  | false => simp [loop, successors, or_comm]
  | true => simp [loop, successors]

namespace Node

/-- A way through a node is a run of its code. -/
theorem Fits.steps {p : Program} {n : Node} {c d : Cursor} {s : List (Nat × Nat)}
    (h : n.Fits c d s) {next start : Nat} (hcode : p.Holds start (n.code next start))
    (slots : List (Nat × Nat)) : ∃ k, p.Steps k ⟨start, c, slots⟩ ⟨next, d, s ++ slots⟩ := by
  induction h generalizing next start slots with
  | empty => exact ⟨1, .single hcode.head List.mem_cons_self⟩
  | one hafter hmem =>
      refine ⟨1, .single hcode.head ?_⟩
      rw [Instruction.successors, hafter]
      dsimp only
      rw [if_pos hmem]
      exact List.mem_cons_self
  | look hholds =>
      refine ⟨1, .single hcode.head ?_⟩
      rw [Instruction.successors, if_pos hholds]
      exact List.mem_cons_self
  | mark => exact ⟨1, .single hcode.head List.mem_cons_self⟩
  | seq _ _ iha ihb =>
      have hsecond := hcode.right
      rw [length_code] at hsecond
      obtain ⟨j, hj⟩ := iha hcode.left slots
      obtain ⟨k, hk⟩ := ihb hsecond (_ ++ slots)
      rw [List.append_assoc]
      exact ⟨_, hj.trans hk⟩
  | altFirst _ ih =>
      obtain ⟨k, hk⟩ := ih hcode.tail.left slots
      exact ⟨_, .step hcode.head List.mem_cons_self hk⟩
  | altSecond _ ih =>
      have hsecond := hcode.tail.right
      rw [length_code] at hsecond
      obtain ⟨k, hk⟩ := ih hsecond slots
      exact ⟨_, .step hcode.head (List.mem_cons_of_mem _ List.mem_cons_self) hk⟩
  | starNone => exact ⟨1, .single hcode.head (Instruction.mem_successors_loop.mpr (.inr rfl))⟩
  | starMore _ _ iha ihmore =>
      obtain ⟨j, hj⟩ := iha hcode.tail slots
      obtain ⟨k, hk⟩ := ihmore hcode (_ ++ slots)
      rw [List.append_assoc]
      exact ⟨_, .step hcode.head (Instruction.mem_successors_loop.mpr (.inl rfl)) (hj.trans hk)⟩
  | plusLast _ ih =>
      have hloop := hcode.right.head
      rw [length_code] at hloop
      obtain ⟨j, hj⟩ := ih hcode.left slots
      exact ⟨_, hj.trans (.single hloop (Instruction.mem_successors_loop.mpr (.inr rfl)))⟩
  | plusMore _ _ iha ihmore =>
      have hloop := hcode.right.head
      rw [length_code] at hloop
      obtain ⟨j, hj⟩ := iha hcode.left slots
      obtain ⟨k, hk⟩ := ihmore hcode (_ ++ slots)
      rw [List.append_assoc]
      exact ⟨_, hj.trans (.step hloop (Instruction.mem_successors_loop.mpr (.inl rfl)) hk)⟩

/-- The thread `t` goes a way through the node, and is then `v`. -/
def Passes (n : Node) (t v : Thread) : Prop :=
  ∃ s, n.Fits t.cursor v.cursor s ∧ v.slots = s ++ t.slots

/-- A run that succeeds from the first instruction of a node goes a way through the node, and on
from the address that its code goes on at. -/
theorem passes_of_steps {p : Program} {n : Node} {next start k : Nat} {t u : Thread}
    (hcode : p.Holds start (n.code next start)) (hstart : t.address = start)
    (hsteps : p.Steps k t u) (hstop : p[u.address]? = none) :
    ∃ j v, j < k ∧ v.address = next ∧ n.Passes t v ∧ p.Steps j v u := by
  induction n generalizing next start k t with
  | empty =>
      obtain ⟨j, v, rfl, hv, hrest⟩ := hsteps.cases_head (hcode.found hstart) hstop
      obtain rfl := List.mem_singleton.mp hv
      exact ⟨j, { t with address := next }, Nat.lt_succ_self j, rfl, ⟨[], .empty, rfl⟩, hrest⟩
  | one members =>
      obtain ⟨j, v, rfl, hv, hrest⟩ := hsteps.cases_head (hcode.found hstart) hstop
      rw [Instruction.successors] at hv
      split at hv
      · cases hv
      · rename_i d after hafter
        split at hv
        · rename_i hmem
          obtain rfl := List.mem_singleton.mp hv
          exact ⟨j, ⟨next, ⟨some d, after, t.cursor.offset + 1⟩, t.slots⟩, Nat.lt_succ_self j, rfl,
            ⟨[], .one hafter hmem, rfl⟩, hrest⟩
        · cases hv
  | look condition =>
      obtain ⟨j, v, rfl, hv, hrest⟩ := hsteps.cases_head (hcode.found hstart) hstop
      rw [Instruction.successors] at hv
      split at hv
      · rename_i hholds
        obtain rfl := List.mem_singleton.mp hv
        exact ⟨j, { t with address := next }, Nat.lt_succ_self j, rfl, ⟨[], .look hholds, rfl⟩,
          hrest⟩
      · cases hv
  | mark slot =>
      obtain ⟨j, v, rfl, hv, hrest⟩ := hsteps.cases_head (hcode.found hstart) hstop
      obtain rfl := List.mem_singleton.mp hv
      exact ⟨j, ⟨next, t.cursor, (slot, t.cursor.offset) :: t.slots⟩, Nat.lt_succ_self j, rfl,
        ⟨_, .mark, rfl⟩, hrest⟩
  | seq a b iha ihb =>
      have hsecond := hcode.right
      rw [length_code] at hsecond
      obtain ⟨i, v, hi, hv, ⟨s, hs, hslots⟩, hsteps⟩ := iha hcode.left hstart hsteps
      obtain ⟨j, w, hj, hw, ⟨s', hs', hslots'⟩, hsteps⟩ := ihb hsecond hv hsteps
      refine ⟨j, w, by omega, hw, ⟨s' ++ s, .seq hs hs', ?_⟩, hsteps⟩
      rw [hslots', hslots, List.append_assoc]
  | alt a b iha ihb =>
      have hsecond := hcode.tail.right
      rw [length_code] at hsecond
      obtain ⟨i, v, rfl, hv, hrest⟩ := hsteps.cases_head (hcode.found hstart) hstop
      rcases List.mem_cons.mp hv with rfl | hv
      · obtain ⟨j, w, hj, hw, ⟨s, hs, hslots⟩, hsteps⟩ := iha hcode.tail.left rfl hrest
        exact ⟨j, w, by omega, hw, ⟨s, .altFirst hs, hslots⟩, hsteps⟩
      · obtain rfl := List.mem_singleton.mp hv
        obtain ⟨j, w, hj, hw, ⟨s, hs, hslots⟩, hsteps⟩ := ihb hsecond rfl hrest
        exact ⟨j, w, by omega, hw, ⟨s, .altSecond hs, hslots⟩, hsteps⟩
  | star greedy a ih =>
      -- each further time through the body leaves a shorter run
      induction k using Nat.strongRecOn generalizing t with
      | _ k ihk =>
          obtain ⟨i, v, rfl, hv, hrest⟩ := hsteps.cases_head (hcode.found hstart) hstop
          rcases Instruction.mem_successors_loop.mp hv with rfl | rfl
          · obtain ⟨j, w, hj, hw, ⟨s, hs, hslots⟩, hrest⟩ := ih hcode.tail rfl hrest
            obtain ⟨j', x, hj', hx, ⟨s', hs', hslots'⟩, hrest⟩ := ihk j (by omega) hw hrest
            refine ⟨j', x, by omega, hx, ⟨s' ++ s, .starMore hs hs', ?_⟩, hrest⟩
            rw [hslots', hslots, List.append_assoc]
          · exact ⟨i, { t with address := next }, Nat.lt_succ_self i, rfl, ⟨[], .starNone, rfl⟩,
              hrest⟩
  | plus greedy a ih =>
      have hloop := hcode.right.head
      rw [length_code] at hloop
      induction k using Nat.strongRecOn generalizing t with
      | _ k ihk =>
          obtain ⟨i, v, hi, hv, ⟨s, hs, hslots⟩, hrest⟩ := ih hcode.left hstart hsteps
          obtain ⟨j, w, rfl, hw, hrest⟩ := hrest.cases_head (hv ▸ hloop) hstop
          rcases Instruction.mem_successors_loop.mp hw with rfl | rfl
          · obtain ⟨j', x, hj', hx, ⟨s', hs', hslots'⟩, hrest⟩ := ihk j (by omega) rfl hrest
            refine ⟨j', x, by omega, hx, ⟨s' ++ s, .plusMore hs hs', ?_⟩, hrest⟩
            rw [hslots', hslots, List.append_assoc]
          · exact ⟨j, { v with address := next }, by omega, rfl, ⟨s, .plusLast hs, hslots⟩, hrest⟩

end Node

namespace Instruction

/-- The addresses that an instruction can lead to. -/
def targets : Instruction → List Nat
  | take _ next => [next]
  | check _ next => [next]
  | set _ next => [next]
  | jump next => [next]
  | split first second => [first, second]

theorem mem_targets_loop {greedy : Bool} {again leave x : Nat}
    (h : x ∈ (loop greedy again leave).targets) : x = again ∨ x = leave := by
  cases greedy with
  | false => simpa [loop, targets, or_comm] using h
  | true => simpa [loop, targets] using h

theorem targets_singleton {i : Instruction} {next bound : Nat} (hi : i.targets = [next])
    (hnext : next ≤ bound) : ∀ j ∈ [i], ∀ x ∈ j.targets, x ≤ bound := by
  intro j hj x hx
  rw [List.mem_singleton.mp hj, hi] at hx
  exact List.mem_singleton.mp hx ▸ hnext

/-- What a step does to a thread: it leads to a target, and no way back in the text. -/
theorem successors_spec {i : Instruction} {t u : Thread} (h : u ∈ i.successors t) :
    u.address ∈ i.targets ∧ t.cursor.Ahead u.cursor := by
  cases i with
  | take members next =>
      rw [successors] at h
      split at h
      · cases h
      · rename_i d rest hafter
        split at h
        · obtain rfl := List.mem_singleton.mp h
          exact ⟨List.mem_cons_self, Cursor.ahead_next hafter⟩
        · cases h
  | check condition next =>
      rw [successors] at h
      split at h
      · obtain rfl := List.mem_singleton.mp h
        exact ⟨List.mem_cons_self, .refl _⟩
      · cases h
  | set slot next =>
      obtain rfl := List.mem_singleton.mp h
      exact ⟨List.mem_cons_self, .refl _⟩
  | jump next =>
      obtain rfl := List.mem_singleton.mp h
      exact ⟨List.mem_cons_self, .refl _⟩
  | split first second =>
      rcases List.mem_cons.mp h with rfl | h
      · exact ⟨List.mem_cons_self, .refl _⟩
      · obtain rfl := List.mem_singleton.mp h
        exact ⟨List.mem_cons_of_mem first List.mem_cons_self, .refl _⟩

theorem length_successors_le (i : Instruction) (t : Thread) : (i.successors t).length ≤ 2 := by
  cases i with
  | take members next =>
      rw [successors]
      split
      · exact Nat.zero_le 2
      · split
        · exact Nat.le_succ 1
        · exact Nat.zero_le 2
  | check condition next =>
      rw [successors]
      split
      · exact Nat.le_succ 1
      · exact Nat.zero_le 2
  | set slot next => exact Nat.le_succ 1
  | jump next => exact Nat.le_succ 1
  | split first second => exact Nat.le_refl 2

/-- The slots of a thread do not change where it can go. -/
theorem successors_congr {i : Instruction} {t t' u : Thread} (hcursor : t.cursor = t'.cursor)
    (h : u ∈ i.successors t) :
    ∃ u' ∈ i.successors t', u.address = u'.address ∧ u.cursor = u'.cursor := by
  cases i with
  | take members next =>
      rw [successors, hcursor] at h
      rw [successors]
      split at h
      · cases h
      · split at h
        · rename_i hmem
          obtain rfl := List.mem_singleton.mp h
          rw [if_pos hmem]
          exact ⟨_, List.mem_cons_self, rfl, rfl⟩
        · cases h
  | check condition next =>
      rw [successors, hcursor] at h
      rw [successors]
      split at h
      · rename_i hholds
        obtain rfl := List.mem_singleton.mp h
        rw [if_pos hholds]
        exact ⟨_, List.mem_cons_self, rfl, rfl⟩
      · cases h
  | set slot next =>
      obtain rfl := List.mem_singleton.mp h
      exact ⟨_, List.mem_cons_self, rfl, hcursor⟩
  | jump next =>
      obtain rfl := List.mem_singleton.mp h
      exact ⟨_, List.mem_cons_self, rfl, hcursor⟩
  | split first second =>
      rcases List.mem_cons.mp h with rfl | h
      · exact ⟨_, List.mem_cons_self, rfl, hcursor⟩
      · obtain rfl := List.mem_singleton.mp h
        exact ⟨_, List.mem_cons_of_mem _ List.mem_cons_self, rfl, hcursor⟩

end Instruction

/-- The code of a node leads nowhere but into itself, to its end and to where it goes on. -/
theorem Node.targets_code {n : Node} {next start bound : Nat} (hnext : next ≤ bound)
    (hsize : start + n.size ≤ bound) : ∀ i ∈ n.code next start, ∀ x ∈ i.targets, x ≤ bound := by
  induction n generalizing next start with
  | empty => exact Instruction.targets_singleton rfl hnext
  | one members => exact Instruction.targets_singleton rfl hnext
  | look condition => exact Instruction.targets_singleton rfl hnext
  | mark slot => exact Instruction.targets_singleton rfl hnext
  | seq a b iha ihb =>
      rw [size] at hsize
      intro i hi
      rcases List.mem_append.mp hi with hi | hi
      · exact iha (by omega) (by omega) i hi
      · exact ihb hnext (by omega) i hi
  | alt a b iha ihb =>
      rw [size] at hsize
      intro i hi
      rcases List.mem_cons.mp hi with rfl | hi
      · intro x hx
        rcases List.mem_cons.mp hx with rfl | hx
        · omega
        · obtain rfl := List.mem_singleton.mp hx
          omega
      · rcases List.mem_append.mp hi with hi | hi
        · exact iha hnext (by omega) i hi
        · exact ihb hnext (by omega) i hi
  | star greedy a ih =>
      rw [size] at hsize
      intro i hi
      rcases List.mem_cons.mp hi with rfl | hi
      · intro x hx
        rcases Instruction.mem_targets_loop hx with rfl | rfl <;> omega
      · exact ih (by omega) (by omega) i hi
  | plus greedy a ih =>
      rw [size] at hsize
      intro i hi
      rcases List.mem_append.mp hi with hi | hi
      · exact ih (by omega) (by omega) i hi
      · obtain rfl := List.mem_singleton.mp hi
        intro x hx
        rcases Instruction.mem_targets_loop hx with rfl | rfl <;> omega

end WordingAudit.Pattern
