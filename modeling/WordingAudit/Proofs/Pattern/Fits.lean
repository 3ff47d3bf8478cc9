import WordingAudit.Proofs.Pattern.Groups

/-!
What fits a node, as a relation between positions: the ways through a text that the node describes,
whichever of them is preferred, with the slots that each way sets.
-/

namespace WordingAudit.Pattern

namespace Cursor

/-- `d` is the position `c` or one further on in the same text. -/
def Ahead (c d : Cursor) : Prop := ∃ n ≤ c.after.length, d = c.advance n

theorem advance_of_after_eq_nil {c : Cursor} (h : c.after = []) (n : Nat) : c.advance n = c := by
  cases n with
  | zero => rfl
  | succ n => rw [advance, next?, h]

theorem advance_succ {c : Cursor} {d : Char} {rest : Text} (h : c.after = d :: rest) (n : Nat) :
    c.advance (n + 1) = (⟨some d, rest, c.offset + 1⟩ : Cursor).advance n := by
  rw [advance, next?, h]

theorem after_advance (c : Cursor) (n : Nat) : (c.advance n).after = c.after.drop n := by
  induction n generalizing c with
  | zero => rfl
  | succ n ih =>
      cases hafter : c.after with
      | nil => rw [advance_of_after_eq_nil hafter, hafter, List.drop_nil]
      | cons d rest => rw [advance_succ hafter, ih, List.drop_succ_cons]

theorem offset_advance {c : Cursor} {n : Nat} (h : n ≤ c.after.length) :
    (c.advance n).offset = c.offset + n := by
  induction n generalizing c with
  | zero => rfl
  | succ n ih =>
      cases hafter : c.after with
      | nil =>
          rw [hafter] at h
          exact absurd h (Nat.not_succ_le_zero n)
      | cons d rest =>
          rw [hafter] at h
          rw [advance_succ hafter, ih (Nat.le_of_succ_le_succ h)]
          exact Nat.add_right_comm c.offset 1 n

theorem advance_advance (c : Cursor) (m n : Nat) : (c.advance m).advance n = c.advance (m + n) := by
  induction m generalizing c with
  | zero => rw [Nat.zero_add, advance]
  | succ m ih =>
      cases hafter : c.after with
      | nil => rw [advance_of_after_eq_nil hafter, advance_of_after_eq_nil hafter,
          advance_of_after_eq_nil hafter]
      | cons d rest => rw [advance_succ hafter, ih, Nat.succ_add, advance_succ hafter]

theorem Ahead.refl (c : Cursor) : c.Ahead c := ⟨0, Nat.zero_le _, rfl⟩

theorem Ahead.trans {c d e : Cursor} (hcd : c.Ahead d) (hde : d.Ahead e) : c.Ahead e := by
  obtain ⟨m, hm, rfl⟩ := hcd
  obtain ⟨n, hn, rfl⟩ := hde
  rw [after_advance, List.length_drop] at hn
  exact ⟨m + n, by omega, advance_advance c m n⟩

theorem ahead_next {c : Cursor} {d : Char} {rest : Text} (h : c.after = d :: rest) :
    c.Ahead ⟨some d, rest, c.offset + 1⟩ := by
  refine ⟨1, ?_, (advance_succ h 0).symm⟩
  rw [h, List.length_cons]
  omega

theorem Ahead.offset_le {c d : Cursor} (h : c.Ahead d) : c.offset ≤ d.offset := by
  obtain ⟨n, hn, rfl⟩ := h
  rw [offset_advance hn]
  omega

theorem Ahead.offset_add_length {c d : Cursor} (h : c.Ahead d) :
    d.offset + d.after.length = c.offset + c.after.length := by
  obtain ⟨n, hn, rfl⟩ := h
  rw [offset_advance hn, after_advance, List.length_drop]
  omega

/-- A position of a text is known by its offset. -/
theorem Ahead.eq_of_offset {c d e : Cursor} (hd : c.Ahead d) (he : c.Ahead e)
    (h : d.offset = e.offset) : d = e := by
  obtain ⟨m, hm, rfl⟩ := hd
  obtain ⟨n, hn, rfl⟩ := he
  rw [offset_advance hm, offset_advance hn] at h
  have heq : m = n := by omega
  rw [heq]

end Cursor

/-- A way through a node from position `c` to position `d`, with the slots it sets, the latest
first. -/
inductive Node.Fits : Node → Cursor → Cursor → List (Nat × Nat) → Prop
  | empty {c : Cursor} : Fits .empty c c []
  | one {members : CharSet} {c : Cursor} {d : Char} {rest : Text} (hafter : c.after = d :: rest)
      (hmem : members.contains d = true) : Fits (.one members) c ⟨some d, rest, c.offset + 1⟩ []
  | look {condition : Look} {c : Cursor} (hholds : condition.holds c = true) :
      Fits (.look condition) c c []
  | mark {slot : Nat} {c : Cursor} : Fits (.mark slot) c c [(slot, c.offset)]
  | seq {a b : Node} {c d e : Cursor} {s t : List (Nat × Nat)} (ha : Fits a c d s)
      (hb : Fits b d e t) : Fits (.seq a b) c e (t ++ s)
  | altFirst {a b : Node} {c d : Cursor} {s : List (Nat × Nat)} (ha : Fits a c d s) :
      Fits (.alt a b) c d s
  | altSecond {a b : Node} {c d : Cursor} {s : List (Nat × Nat)} (hb : Fits b c d s) :
      Fits (.alt a b) c d s
  | starNone {greedy : Bool} {a : Node} {c : Cursor} : Fits (.star greedy a) c c []
  | starMore {greedy : Bool} {a : Node} {c d e : Cursor} {s t : List (Nat × Nat)}
      (ha : Fits a c d s) (hmore : Fits (.star greedy a) d e t) : Fits (.star greedy a) c e (t ++ s)
  | plusLast {greedy : Bool} {a : Node} {c d : Cursor} {s : List (Nat × Nat)} (ha : Fits a c d s) :
      Fits (.plus greedy a) c d s
  | plusMore {greedy : Bool} {a : Node} {c d e : Cursor} {s t : List (Nat × Nat)}
      (ha : Fits a c d s) (hmore : Fits (.plus greedy a) d e t) : Fits (.plus greedy a) c e (t ++ s)

namespace Node

/-- The slots that a node can set. -/
def marks : Node → List Nat
  | mark slot => [slot]
  | seq a b => a.marks ++ b.marks
  | alt a b => a.marks ++ b.marks
  | star _ a => a.marks
  | plus _ a => a.marks
  | _ => []

theorem Fits.ahead {n : Node} {c d : Cursor} {s : List (Nat × Nat)} (h : n.Fits c d s) :
    c.Ahead d := by
  induction h with
  | empty => exact .refl _
  | one hafter _ => exact Cursor.ahead_next hafter
  | look _ => exact .refl _
  | mark => exact .refl _
  | seq _ _ iha ihb => exact iha.trans ihb
  | altFirst _ ih => exact ih
  | altSecond _ ih => exact ih
  | starNone => exact .refl _
  | starMore _ _ iha ihmore => exact iha.trans ihmore
  | plusLast _ ih => exact ih
  | plusMore _ _ iha ihmore => exact iha.trans ihmore

theorem Fits.mem_marks {n : Node} {c d : Cursor} {s : List (Nat × Nat)} (h : n.Fits c d s) :
    ∀ x ∈ s, x.1 ∈ n.marks := by
  induction h with
  | empty => exact List.forall_mem_nil _
  | one _ _ => exact List.forall_mem_nil _
  | look _ => exact List.forall_mem_nil _
  | mark => exact List.forall_mem_singleton.mpr List.mem_cons_self
  | seq _ _ iha ihb =>
      exact List.forall_mem_append.mpr ⟨fun x hx => List.mem_append_right _ (ihb x hx),
        fun x hx => List.mem_append_left _ (iha x hx)⟩
  | altFirst _ ih => exact fun x hx => List.mem_append_left _ (ih x hx)
  | altSecond _ ih => exact fun x hx => List.mem_append_right _ (ih x hx)
  | starNone => exact List.forall_mem_nil _
  | starMore _ _ iha ihmore => exact List.forall_mem_append.mpr ⟨ihmore, iha⟩
  | plusLast _ ih => exact ih
  | plusMore _ _ iha ihmore => exact List.forall_mem_append.mpr ⟨ihmore, iha⟩

theorem marks_optional (greedy : Bool) (body : Node) :
    (optional greedy body).marks = body.marks := by
  cases greedy with
  | false => rfl
  | true => exact List.append_nil _

theorem marks_exactly (body : Node) (n : Nat) : ∀ x ∈ (exactly body n).marks, x ∈ body.marks := by
  induction n using exactly.induct with
  | case1 => exact fun x hx => absurd hx List.not_mem_nil
  | case2 => exact fun x hx => hx
  | case3 n _ ih =>
      intro x hx
      rw [exactly, marks] at hx
      · rcases List.mem_append.mp hx with hx | hx
        · exact hx
        · exact ih x hx
      · assumption

theorem marks_upTo (greedy : Bool) (body : Node) (n : Nat) :
    ∀ x ∈ (upTo greedy body n).marks, x ∈ body.marks := by
  induction n with
  | zero => exact fun x hx => absurd hx List.not_mem_nil
  | succ n ih =>
      intro x hx
      rw [upTo, marks_optional] at hx
      rcases List.mem_append.mp hx with hx | hx
      · exact hx
      · exact ih x hx

theorem marks_atLeast (greedy mayBeEmpty : Bool) (body : Node) (n : Nat) :
    ∀ x ∈ (atLeast greedy mayBeEmpty body n).marks, x ∈ body.marks := by
  intro x hx
  rw [atLeast.eq_def] at hx
  split at hx
  · cases mayBeEmpty with
    | false => exact hx
    | true =>
        rw [if_pos rfl, marks_optional] at hx
        exact hx
  · exact hx
  · rcases List.mem_append.mp hx with hx | hx
    · exact marks_exactly body _ x hx
    · exact hx

/-- A node sets the slots of the groups of its expression. -/
theorem mem_marks_ofExpr {e : Expr} {x : Nat} (h : x ∈ (ofExpr e).marks) :
    ∃ g ∈ e.groups, x = 2 * g.1 ∨ x = 2 * g.1 + 1 := by
  induction e using ofExpr.induct with
  | case1 => cases h
  | case2 => cases h
  | case3 => cases h
  | case4 least greedy body ih =>
      rw [ofExpr] at h
      exact ih (marks_atLeast _ _ _ _ x h)
  | case5 most greedy body ih =>
      rw [ofExpr, if_pos rfl] at h
      exact ih (marks_upTo _ _ _ x h)
  | case6 least most greedy body hleast ih =>
      rw [ofExpr, if_neg hleast] at h
      rcases List.mem_append.mp h with h | h
      · exact ih (marks_exactly _ _ x h)
      · exact ih (marks_upTo _ _ _ x h)
  | case7 index name body ih =>
      rw [ofExpr] at h
      rcases List.mem_append.mp h with h | h
      · exact ⟨(index, name), List.mem_cons_self, .inl (List.mem_singleton.mp h)⟩
      · rcases List.mem_append.mp h with h | h
        · obtain ⟨g, hg, hx⟩ := ih h
          exact ⟨g, List.mem_cons_of_mem _ hg, hx⟩
        · exact ⟨(index, name), List.mem_cons_self, .inr (List.mem_singleton.mp h)⟩
  | case8 a b iha ihb =>
      rw [ofExpr] at h
      rcases List.mem_append.mp h with h | h
      · obtain ⟨g, hg, hx⟩ := iha h
        exact ⟨g, List.mem_append_left _ hg, hx⟩
      · obtain ⟨g, hg, hx⟩ := ihb h
        exact ⟨g, List.mem_append_right _ hg, hx⟩
  | case9 a b iha ihb =>
      rw [ofExpr] at h
      rcases List.mem_append.mp h with h | h
      · obtain ⟨g, hg, hx⟩ := iha h
        exact ⟨g, List.mem_append_left _ hg, hx⟩
      · obtain ⟨g, hg, hx⟩ := ihb h
        exact ⟨g, List.mem_append_right _ hg, hx⟩

end Node

namespace Expr

/-- A way through an expression from one position to another. -/
def Fits (e : Expr) (c d : Cursor) : Prop := ∃ s, (Node.ofExpr e).Fits c d s

theorem Fits.ahead {e : Expr} {c d : Cursor} (h : e.Fits c d) : c.Ahead d := by
  obtain ⟨s, hs⟩ := h
  exact hs.ahead

theorem fits_empty {c d : Cursor} : empty.Fits c d ↔ c = d := by
  constructor
  · rintro ⟨s, hs⟩
    cases hs
    rfl
  · rintro rfl
    exact ⟨[], .empty⟩

theorem fits_set {members : CharSet} {c d : Cursor} :
    (set members).Fits c d ↔ ∃ x rest, c.after = x :: rest ∧ members.contains x = true ∧
      d = ⟨some x, rest, c.offset + 1⟩ := by
  constructor
  · rintro ⟨s, hs⟩
    cases hs with
    | one hafter hmem => exact ⟨_, _, hafter, hmem, rfl⟩
  · rintro ⟨x, rest, hafter, hmem, rfl⟩
    exact ⟨[], .one hafter hmem⟩

theorem fits_look {condition : Look} {c d : Cursor} :
    (look condition).Fits c d ↔ c = d ∧ condition.holds c = true := by
  constructor
  · rintro ⟨s, hs⟩
    cases hs with
    | look hholds => exact ⟨rfl, hholds⟩
  · rintro ⟨rfl, hholds⟩
    exact ⟨[], .look hholds⟩

theorem fits_seq {a b : Expr} {c e : Cursor} :
    (seq a b).Fits c e ↔ ∃ d, a.Fits c d ∧ b.Fits d e := by
  constructor
  · rintro ⟨s, hs⟩
    cases hs with
    | seq ha hb => exact ⟨_, ⟨_, ha⟩, ⟨_, hb⟩⟩
  · rintro ⟨d, ⟨s, hs⟩, ⟨t, ht⟩⟩
    exact ⟨_, .seq hs ht⟩

theorem fits_append {a b : Expr} {c e : Cursor} :
    (append a b).Fits c e ↔ ∃ d, a.Fits c d ∧ b.Fits d e := by
  fun_induction append a b generalizing c with
  | case1 b =>
      constructor
      · intro h
        exact ⟨c, fits_empty.mpr rfl, h⟩
      · rintro ⟨d, hd, h⟩
        obtain rfl := fits_empty.mp hd
        exact h
  | case2 a a' b ih =>
      rw [fits_seq]
      simp only [fits_seq, ih]
      constructor
      · rintro ⟨d, ha, x, ha', hb⟩
        exact ⟨x, ⟨d, ha, ha'⟩, hb⟩
      · rintro ⟨x, ⟨d, ha, ha'⟩, hb⟩
        exact ⟨d, ha, x, ha', hb⟩
  | case3 a _ _ =>
      constructor
      · intro h
        exact ⟨e, h, fits_empty.mpr rfl⟩
      · rintro ⟨d, h, hd⟩
        obtain rfl := fits_empty.mp hd
        exact h
  | case4 a b _ _ _ => exact fits_seq

theorem fits_sequence_cons {a : Expr} {es : List Expr} {c e : Cursor} :
    (sequence (a :: es)).Fits c e ↔ ∃ d, a.Fits c d ∧ (sequence es).Fits d e :=
  fits_append

end Expr

end WordingAudit.Pattern
