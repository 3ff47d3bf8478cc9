import WordingAudit.Proofs.Pattern.Search

/-!
Occurrences of a pattern as places where its expression fits. There is an occurrence from a position
on exactly when the expression fits somewhere from there on, and the occurrences in a text come one
after the other without overlapping.
-/

namespace WordingAudit.Pattern

theorem contains_all (c : Char) : CharSet.all.contains c = true := by
  have hvalid : c.toNat < 0xD800 ∨ (0xDFFF < c.toNat ∧ c.toNat < 0x110000) := c.valid
  have hle : c.toNat ≤ CharSet.maxCode := by
    rw [CharSet.maxCode]
    omega
  simp [CharSet.all, CharSet.contains, hle]

namespace Node

/-- Any run of characters fits the repetition of any character, and sets no slots. -/
theorem fits_star_all {greedy : Bool} {c d : Cursor} {s : List (Nat × Nat)} :
    (star greedy (one CharSet.all)).Fits c d s ↔ c.Ahead d ∧ s = [] := by
  constructor
  · intro h
    refine ⟨h.ahead, List.eq_nil_iff_forall_not_mem.mpr fun x hx => ?_⟩
    exact absurd (h.mem_marks x hx) List.not_mem_nil
  · rintro ⟨⟨n, hn, rfl⟩, rfl⟩
    induction n generalizing c with
    | zero => exact .starNone
    | succ n ih =>
        cases hafter : c.after with
        | nil =>
            rw [hafter] at hn
            exact absurd hn (Nat.not_succ_le_zero n)
        | cons d rest =>
            rw [hafter] at hn
            rw [Cursor.advance_succ hafter]
            exact .starMore (.one hafter (contains_all d)) (ih (Nat.le_of_succ_le_succ hn))

end Node

namespace Program

/-- The node that a program is made for: the expression as group 0 after any run of characters. -/
def searching (e : Expr) : Node :=
  .seq (.star false (.one CharSet.all)) (Node.ofExpr (.group 0 none e))

theorem fits_searching {e : Expr} {c d : Cursor} {s : List (Nat × Nat)} :
    (searching e).Fits c d s ↔ ∃ start slots, c.Ahead start ∧ (Node.ofExpr e).Fits start d slots ∧
      s = (1, d.offset) :: (slots ++ [(0, start.offset)]) := by
  constructor
  · intro h
    cases h with
    | seq hskip hgroup =>
        obtain ⟨hahead, rfl⟩ := Node.fits_star_all.mp hskip
        cases hgroup with
        | seq hstart hrest =>
            cases hstart
            cases hrest with
            | seq hbody hstop =>
                cases hstop
                exact ⟨_, _, hahead, hbody, by simp⟩
  · rintro ⟨start, slots, hahead, hbody, rfl⟩
    have hfits :
        (searching e).Fits c d ((([(1, d.offset)] ++ slots) ++ [(0, start.offset)]) ++ []) :=
      .seq (Node.fits_star_all.mpr ⟨hahead, rfl⟩) (.seq .mark (.seq hbody .mark))
    rw [List.append_nil] at hfits
    exact hfits

theorem size_ofExpr (e : Expr) : (ofExpr e).size = (searching e).size := by
  rw [ofExpr, List.size_toArray]
  exact Node.length_code _ _ _

theorem holds_ofExpr (e : Expr) :
    (ofExpr e).Holds 0 ((searching e).code (searching e).size 0) :=
  List.prefix_rfl

theorem closed_ofExpr (e : Expr) : (ofExpr e).Closed := by
  intro i hi x hx
  rw [size_ofExpr]
  have hmem : i ∈ (searching e).code (searching e).size 0 := List.mem_toArray.mp hi
  exact Node.targets_code (Nat.le_refl _) (Nat.le_of_eq (Nat.zero_add _)) i hmem x hx

theorem stop_ofExpr (e : Expr) : (ofExpr e)[(searching e).size]? = none :=
  Array.getElem?_eq_none_iff.mpr (Nat.le_of_eq (size_ofExpr e))

/-- Success from the first instruction is a way through the node. -/
theorem fits_of_steps {e : Expr} {k : Nat} {c : Cursor} {u : Thread}
    (h : (ofExpr e).Steps k ⟨0, c, []⟩ u) (hstop : (ofExpr e)[u.address]? = none) :
    (searching e).Fits c u.cursor u.slots := by
  obtain ⟨j, v, -, hv, ⟨s, hs, hslots⟩, hsteps⟩ :=
    Node.passes_of_steps (holds_ofExpr e) rfl h hstop
  cases hsteps with
  | refl =>
      rw [hslots, List.append_nil]
      exact hs
  | step hi _ _ =>
      rw [hv, stop_ofExpr] at hi
      cases hi

theorem fits_of_search {e : Expr} {c : Cursor} {u : Thread} (h : (ofExpr e).search c = some u) :
    (searching e).Fits c u.cursor u.slots := by
  obtain ⟨t, ht, k, hsteps, hstop⟩ := steps_of_run h
  obtain rfl := List.mem_singleton.mp ht
  exact fits_of_steps hsteps hstop

theorem search_ofExpr_isSome {e : Expr} {c : Cursor} :
    ((ofExpr e).search c).isSome = true ↔ ∃ start stop, c.Ahead start ∧ e.Fits start stop := by
  constructor
  · intro h
    obtain ⟨u, hu⟩ := Option.isSome_iff_exists.mp h
    obtain ⟨start, slots, hahead, hfits, -⟩ := fits_searching.mp (fits_of_search hu)
    exact ⟨start, u.cursor, hahead, slots, hfits⟩
  · rintro ⟨start, stop, hahead, slots, hfits⟩
    have hway := fits_searching.mpr ⟨start, slots, hahead, hfits, rfl⟩
    obtain ⟨k, hk⟩ := hway.steps (holds_ofExpr e) []
    exact (search_isSome (closed_ofExpr e)).mpr ⟨k, _, hk, stop_ofExpr e⟩

end Program

theorem lookup_append_of_ne {a b : List (Nat × Nat)} {k : Nat} (h : ∀ x ∈ a, x.1 ≠ k) :
    (a ++ b).lookup k = b.lookup k := by
  induction a with
  | nil => rfl
  | cons x rest ih =>
      have hx : (k == x.1) = false := beq_eq_false_iff_ne.mpr (h x List.mem_cons_self).symm
      rw [List.cons_append, List.lookup_cons, hx]
      exact ih fun y hy => h y (List.mem_cons_of_mem x hy)

/-- The groups inside an expression leave the slots of the whole occurrence alone. -/
theorem Expr.Named.two_le_slot {e : Expr} (h : e.Named) {c d : Cursor} {s : List (Nat × Nat)}
    (hfits : (Node.ofExpr e).Fits c d s) : ∀ x ∈ s, 2 ≤ x.1 := by
  intro x hx
  obtain ⟨g, hg, hmark⟩ := Node.mem_marks_ofExpr (hfits.mem_marks x hx)
  have hindex := (h g hg).1
  omega

theorem findAt_of_search {p : Pattern} {e : Expr} (hprogram : p.program = Program.ofExpr e)
    (hnamed : e.Named) {c : Cursor} {u : Thread} (h : p.program.search c = some u) :
    ∃ start slots, c.Ahead start ∧ (Node.ofExpr e).Fits start u.cursor slots ∧
      u.slots = (1, u.cursor.offset) :: (slots ++ [(0, start.offset)]) ∧
      p.findAt c = some ⟨⟨start.offset, u.cursor.offset⟩, u.slots⟩ := by
  have hsearch := h
  rw [hprogram] at hsearch
  obtain ⟨start, slots, hahead, hfits, hslots⟩ :=
    Program.fits_searching.mp (Program.fits_of_search hsearch)
  have hge := hnamed.two_le_slot hfits
  have hzero : u.slots.lookup 0 = some start.offset := by
    rw [hslots, List.lookup_cons]
    refine (lookup_append_of_ne fun x hx => ?_).trans rfl
    have := hge x hx
    omega
  have hone : u.slots.lookup 1 = some u.cursor.offset := by
    rw [hslots]
    rfl
  refine ⟨start, slots, hahead, hfits, hslots, ?_⟩
  rw [findAt, h, Option.bind_some, hzero, hone]

variable {source : Text} {p : Pattern} {c : Cursor}

/-- Where an occurrence is, the expression of the pattern fits. -/
theorem fits_of_findAt (hp : ofText? source = some p) {m : Match} (h : p.findAt c = some m) :
    ∃ e start stop, read? source = some e ∧ c.Ahead start ∧ e.Fits start stop ∧
      m.span = ⟨start.offset, stop.offset⟩ := by
  obtain ⟨e, hread, rfl⟩ := Option.map_eq_some_iff.mp hp
  obtain ⟨u, hu, -⟩ := Option.bind_eq_some_iff.mp h
  obtain ⟨start, slots, hahead, hfits, -, hfind⟩ := findAt_of_search rfl (named_read? hread) hu
  cases h.symm.trans hfind
  exact ⟨e, start, u.cursor, hread, hahead, ⟨slots, hfits⟩, rfl⟩

theorem findAt_isSome {e : Expr} (hp : ofText? source = some p) (hread : read? source = some e) :
    (p.findAt c).isSome = true ↔ ∃ start stop, c.Ahead start ∧ e.Fits start stop := by
  obtain ⟨e', hread', heq⟩ := Option.map_eq_some_iff.mp hp
  cases hread.symm.trans hread'
  have hprogram : p.program = Program.ofExpr e := by rw [← heq]
  rw [← Program.search_ofExpr_isSome, ← hprogram]
  constructor
  · intro h
    obtain ⟨m, hm⟩ := Option.isSome_iff_exists.mp h
    obtain ⟨u, hu, -⟩ := Option.bind_eq_some_iff.mp hm
    exact Option.isSome_iff_exists.mpr ⟨u, hu⟩
  · intro h
    obtain ⟨u, hu⟩ := Option.isSome_iff_exists.mp h
    obtain ⟨start, slots, -, -, -, hfind⟩ := findAt_of_search hprogram (named_read? hread) hu
    exact Option.isSome_iff_exists.mpr ⟨_, hfind⟩

/-- An occurrence lies in the text from the position on where it was looked for. -/
theorem span_of_findAt (hp : ofText? source = some p) {m : Match} (h : p.findAt c = some m) :
    c.offset ≤ m.span.start ∧ m.span.start ≤ m.span.stop ∧
      m.span.stop ≤ c.offset + c.after.length := by
  obtain ⟨e, start, stop, -, hahead, hfits, hspan⟩ := fits_of_findAt hp h
  have hstop := hahead.trans hfits.ahead
  rw [hspan, ← hstop.offset_add_length]
  exact ⟨hahead.offset_le, hfits.ahead.offset_le, Nat.le_add_right _ _⟩

/-- The span lies between two offsets. -/
def Span.Inside (low high : Nat) (s : Span) : Prop :=
  low ≤ s.start ∧ s.start ≤ s.stop ∧ s.stop ≤ high

/-- The first span ends before the second begins. -/
def Span.Before (s t : Span) : Prop := s.stop ≤ t.start

/-- The occurrences from a position on lie in the rest of the text and do not overlap. -/
theorem spans_of_occurrencesFrom (hp : ofText? source = some p) (fuel : Nat) (c : Cursor)
    (last : Option Nat) :
    (∀ m ∈ p.occurrencesFrom fuel c last,
        m.span.Inside c.offset (c.offset + c.after.length)) ∧
      (p.occurrencesFrom fuel c last).Pairwise (fun m n => m.span.Before n.span) := by
  induction fuel generalizing c last with
  | zero => exact ⟨fun m hm => absurd hm List.not_mem_nil, .nil⟩
  | succ fuel ih =>
      rw [occurrencesFrom]
      split
      · exact ⟨fun m hm => absurd hm List.not_mem_nil, .nil⟩
      · rename_i m hm
        obtain ⟨hstart, hspan, hstop⟩ := span_of_findAt hp hm
        have hrest {d : Cursor} (hd : c.Ahead d) {n : Match}
            (hn : n.span.Inside d.offset (d.offset + d.after.length)) :
            n.span.Inside c.offset (c.offset + c.after.length) := by
          rw [← hd.offset_add_length]
          exact ⟨Nat.le_trans hd.offset_le hn.1, hn.2⟩
        split
        · split
          · exact ⟨fun n hn => absurd hn List.not_mem_nil, .nil⟩
          · rename_i d hnext
            have hahead : c.Ahead d := by
              rw [Cursor.next?] at hnext
              split at hnext
              · cases hnext
              · rename_i hafter
                cases hnext
                exact Cursor.ahead_next hafter
            obtain ⟨hinside, hpairwise⟩ := ih d last
            exact ⟨fun n hn => hrest hahead (hinside n hn), hpairwise⟩
        · have hle : m.span.stop - c.offset ≤ c.after.length := by omega
          have hahead : c.Ahead (c.advance (m.span.stop - c.offset)) := ⟨_, hle, rfl⟩
          have hoffset : (c.advance (m.span.stop - c.offset)).offset = m.span.stop := by
            rw [Cursor.offset_advance hle]
            omega
          obtain ⟨hinside, hpairwise⟩ := ih (c.advance (m.span.stop - c.offset)) (some m.span.stop)
          refine ⟨fun n hn => ?_, .cons (fun n hn => ?_) hpairwise⟩
          · rcases List.mem_cons.mp hn with rfl | hn
            · exact ⟨hstart, hspan, hstop⟩
            · exact hrest hahead (hinside n hn)
          · have hn := (hinside n hn).1
            rw [hoffset] at hn
            exact hn

theorem inside_of_mem_occurrences (hp : ofText? source = some p) {t : Text} {m : Match}
    (h : m ∈ p.occurrences t) : m.span.Inside 0 t.length := by
  have hinside := (spans_of_occurrencesFrom hp (2 * t.length + 2) (Cursor.start t) none).1 m h
  rw [Cursor.start, Nat.zero_add] at hinside
  exact hinside

theorem pairwise_before_occurrences (hp : ofText? source = some p) (t : Text) :
    (p.occurrences t).Pairwise fun m n => m.span.Before n.span :=
  (spans_of_occurrencesFrom hp (2 * t.length + 2) (Cursor.start t) none).2

end WordingAudit.Pattern
