import Mathlib.Tactic.ByContra
import WordingAudit.Proofs.Pattern.Occurrences
import WordingAudit.Proofs.Pattern.Reading

/-!
Keys with tokens. The pattern that such a key stands for covers exactly the texts that have any
characters in the places of the tokens and are otherwise like the key, whatever characters the key
is made of.
-/

namespace WordingAudit

namespace Text

/-- The pieces with the fillings between them, in turn. -/
def weave : List Text → List Text → Text
  | [], _ => []
  | piece :: pieces, [] => piece ++ weave pieces []
  | piece :: pieces, filling :: fillings => piece ++ filling ++ weave pieces fillings

theorem weave_singleton (t : Text) : weave [t] [] = t := List.append_nil t

theorem drop_eq_slice_append (t : Text) {start stop : Nat} (h : start ≤ stop) :
    t.drop start = slice t start stop ++ t.drop stop := by
  have hdrop : t.drop stop = (t.drop start).drop (stop - start) := by
    rw [List.drop_drop, Nat.add_sub_cancel' h]
  rw [slice, hdrop, List.take_append_drop]

end Text

namespace Pattern

theorem contains_single {c d : Char} : (CharSet.single c).contains d = true ↔ c = d := by
  simp only [CharSet.single, CharSet.contains, List.any_cons, List.any_nil, Bool.or_false,
    Bool.and_eq_true, decide_eq_true_eq]
  constructor
  · intro h
    exact Char.toNat_inj.mp (Nat.le_antisymm h.1 h.2)
  · rintro rfl
    exact ⟨Nat.le_refl _, Nat.le_refl _⟩

namespace Expr

theorem fits_character {x : Char} {c d : Cursor} :
    (character x).Fits c d ↔ ∃ rest, c.after = x :: rest ∧ d = ⟨some x, rest, c.offset + 1⟩ := by
  rw [character, fits_set]
  constructor
  · rintro ⟨y, rest, hafter, hmem, rfl⟩
    obtain rfl := contains_single.mp hmem
    exact ⟨rest, hafter, rfl⟩
  · rintro ⟨rest, hafter, rfl⟩
    exact ⟨x, rest, hafter, contains_single.mpr rfl, rfl⟩

theorem fits_anything {c d : Cursor} : anything.Fits c d ↔ c.Ahead d := by
  have hnode : Node.ofExpr anything = .star true (.one CharSet.all) := by
    simp [anything, Node.ofExpr, Node.atLeast, minLength, CharSet.all]
  rw [Fits, hnode]
  constructor
  · rintro ⟨s, hs⟩
    exact hs.ahead
  · intro h
    exact ⟨[], Node.fits_star_all.mpr ⟨h, rfl⟩⟩

/-- A literal text fits where it stands. -/
theorem fits_characters {t : Text} {es : List Expr} {c e : Cursor} :
    (sequence (t.map character ++ es)).Fits c e ↔
      t <+: c.after ∧ (sequence es).Fits (c.advance t.length) e := by
  induction t generalizing c with
  | nil => simp [Cursor.advance]
  | cons x t ih =>
      rw [List.map_cons, List.cons_append, fits_sequence_cons]
      constructor
      · rintro ⟨d, hx, hrest⟩
        obtain ⟨rest, hafter, rfl⟩ := fits_character.mp hx
        obtain ⟨hbegins, hrest⟩ := ih.mp hrest
        rw [hafter, List.length_cons, Cursor.advance_succ hafter]
        exact ⟨(List.prefix_cons_inj x).mpr hbegins, hrest⟩
      · rintro ⟨⟨rest, hafter⟩, hrest⟩
        rw [List.length_cons, Cursor.advance_succ hafter.symm] at hrest
        refine ⟨_, fits_character.mpr ⟨t ++ rest, hafter.symm, rfl⟩, ih.mpr ⟨?_, hrest⟩⟩
        exact List.prefix_append t rest

theorem fits_stop {c d : Cursor} : (sequence [look .stop]).Fits c d ↔ c = d ∧ c.after = [] := by
  have hsequence : sequence [look .stop] = look .stop := rfl
  rw [hsequence, fits_look, Look.holds, List.isEmpty_iff]

/-- Literal texts with anything between fit the texts that are woven from them. -/
theorem fits_between {t : Text} {pieces : List Text} {c : Cursor} :
    (∃ d, (sequence (between (t :: pieces) ++ [look .stop])).Fits c d) ↔
      ∃ fillings, fillings.length = pieces.length ∧
        c.after = Text.weave (t :: pieces) fillings := by
  induction pieces generalizing t c with
  | nil =>
      constructor
      · rintro ⟨d, hd⟩
        obtain ⟨⟨rest, hrest⟩, hstop⟩ := fits_characters.mp hd
        obtain ⟨-, hnil⟩ := fits_stop.mp hstop
        rw [Cursor.after_advance, ← hrest, List.drop_left] at hnil
        refine ⟨[], rfl, ?_⟩
        rw [← hrest, hnil, List.append_nil, Text.weave_singleton]
      · rintro ⟨fillings, hlength, hafter⟩
        obtain rfl := List.length_eq_zero_iff.mp hlength
        rw [Text.weave_singleton] at hafter
        refine ⟨c.advance t.length, fits_characters.mpr ⟨?_, fits_stop.mpr ⟨rfl, ?_⟩⟩⟩
        · exact ⟨[], by rw [hafter, List.append_nil]⟩
        · rw [Cursor.after_advance, hafter, List.drop_length]
  | cons next pieces ih =>
      have hexpr : between (t :: next :: pieces) ++ [look .stop] =
          t.map character ++ (anything :: (between (next :: pieces) ++ [look .stop])) := by
        rw [between, List.append_assoc, List.cons_append]
        exact List.cons_ne_nil next pieces
      rw [hexpr]
      constructor
      · rintro ⟨d, hd⟩
        obtain ⟨⟨rest, hrest⟩, hany⟩ := fits_characters.mp hd
        obtain ⟨e, hfill, hmore⟩ := fits_sequence_cons.mp hany
        obtain ⟨n, hn, rfl⟩ := fits_anything.mp hfill
        obtain ⟨fillings, hlength, hafter⟩ := ih.mp ⟨d, hmore⟩
        rw [Cursor.after_advance, Cursor.after_advance, ← hrest, List.drop_left] at hafter
        refine ⟨rest.take n :: fillings, congrArg (· + 1) hlength, ?_⟩
        rw [Text.weave, ← hafter, List.append_assoc, List.take_append_drop, hrest]
      · rintro ⟨fillings, hlength, hafter⟩
        cases fillings with
        | nil => cases hlength
        | cons filling fillings =>
            rw [Text.weave, List.append_assoc] at hafter
            have hrest : (c.advance t.length).after =
                filling ++ Text.weave (next :: pieces) fillings := by
              rw [Cursor.after_advance, hafter, List.drop_left]
            have hahead : (c.advance t.length).Ahead
                ((c.advance t.length).advance filling.length) := by
              refine ⟨filling.length, ?_, rfl⟩
              rw [hrest, List.length_append]
              exact Nat.le_add_right _ _
            obtain ⟨d, hd⟩ := ih.mpr ⟨fillings, Nat.succ.inj hlength, by
              rw [Cursor.after_advance, hrest, List.drop_left]⟩
            refine ⟨d, fits_characters.mpr ⟨?_, fits_sequence_cons.mpr ⟨_, ?_, hd⟩⟩⟩
            · rw [hafter]
              exact List.prefix_append t _
            · exact fits_anything.mpr hahead

end Expr

/-- The pattern of anchored pieces occurs in the texts that are woven from them. -/
theorem occursIn_anchored {t : Text} {pieces : List Text} {q : Pattern}
    (hq : ofText? (Comparison.anchored (t :: pieces)) = some q) {s : Text} :
    q.occursIn s = true ↔ ∃ fillings, fillings.length = pieces.length ∧
      s = Text.weave (t :: pieces) fillings := by
  rw [occursIn, find, findAt_isSome hq (read?_anchored _)]
  refine Iff.trans ?_ (Expr.fits_between (c := Cursor.start s))
  constructor
  · rintro ⟨start, stop, ⟨n, hn, rfl⟩, hfits⟩
    obtain ⟨d, hlook, hrest⟩ := Expr.fits_sequence_cons.mp hfits
    obtain ⟨rfl, hholds⟩ := Expr.fits_look.mp hlook
    have hzero : n = 0 := by
      have hoffset := Cursor.offset_advance hn
      have hstart : ((Cursor.start s).advance n).offset = 0 := of_decide_eq_true hholds
      have hbegin : (Cursor.start s).offset = 0 := rfl
      omega
    rw [hzero] at hrest
    exact ⟨stop, hrest⟩
  · rintro ⟨stop, hfits⟩
    exact ⟨Cursor.start s, stop, .refl _,
      Expr.fits_sequence_cons.mpr ⟨_, Expr.fits_look.mpr ⟨rfl, rfl⟩, hfits⟩⟩

end Pattern

namespace Comparison

theorem length_partsAround (t : Text) (start : Nat) (spans : List Pattern.Span) :
    (partsAround t start spans).length = spans.length + 1 := by
  induction spans generalizing start with
  | nil => rfl
  | cons s rest ih => rw [partsAround, List.length_cons, ih, List.length_cons]

/-- A text is woven from the parts around some spans and the spans themselves. -/
theorem weave_partsAround {t : Text} {start : Nat} {spans : List Pattern.Span}
    (hinside : ∀ s ∈ spans, s.Inside start t.length)
    (hbefore : spans.Pairwise Pattern.Span.Before) :
    Text.weave (partsAround t start spans) (spans.map fun s => Text.slice t s.start s.stop) =
      t.drop start := by
  induction spans generalizing start with
  | nil => rw [partsAround, List.map_nil, Text.weave_singleton]
  | cons s rest ih =>
      obtain ⟨hstart, hspan, -⟩ := hinside s List.mem_cons_self
      obtain ⟨hs, hrest⟩ := List.pairwise_cons.mp hbefore
      have hlater : ∀ u ∈ rest, u.Inside s.stop t.length := fun u hu =>
        ⟨hs u hu, (hinside u (List.mem_cons_of_mem s hu)).2⟩
      rw [partsAround, List.map_cons, Text.weave, ih hlater hrest, List.append_assoc,
        ← Text.drop_eq_slice_append t hspan, ← Text.drop_eq_slice_append t hstart]

theorem mem_tokens {p : Pattern} {c : Comparison} (hc : c.wildcard = some p) {key : Text}
    {s : Pattern.Span} :
    s ∈ c.tokens key ↔ s.start < s.stop ∧ ∃ m ∈ p.occurrences key, m.span = s := by
  rw [tokens, hc]
  dsimp only
  rw [List.mem_filter, List.mem_map, decide_eq_true_iff, and_comm]

/-- The tokens of a key lie in it one after the other, without overlapping. -/
theorem tokens_spec {w : Text} {p : Pattern} (hw : Pattern.ofText? w = some p) {c : Comparison}
    (hc : c.wildcard = some p) (key : Text) :
    (∀ s ∈ c.tokens key, s.Inside 0 key.length) ∧
      (c.tokens key).Pairwise Pattern.Span.Before := by
  constructor
  · intro s hs
    obtain ⟨-, m, hm, rfl⟩ := (mem_tokens hc).mp hs
    exact Pattern.inside_of_mem_occurrences hw hm
  · rw [tokens, hc]
    exact (List.pairwise_map.mpr (Pattern.pairwise_before_occurrences hw key)).filter _

theorem localPattern?_eq_none {c : Comparison} {key : Text} (h : c.tokens key = []) :
    c.localPattern? key = none := by
  rw [localPattern?, h]

/-- A key with tokens has a pattern: the text made of its parts is always one that can be read. -/
theorem localPattern?_eq_some {c : Comparison} {key : Text} (h : c.tokens key ≠ []) :
    ∃ q, c.localPattern? key = some q ∧
      Pattern.ofText? (anchored (partsAround key 0 (c.tokens key))) = some q := by
  have hread := Pattern.read?_anchored (partsAround key 0 (c.tokens key))
  obtain ⟨q, hq⟩ : ∃ q, Pattern.ofText? (anchored (partsAround key 0 (c.tokens key))) = some q :=
    ⟨_, Option.map_eq_some_iff.mpr ⟨_, hread, rfl⟩⟩
  refine ⟨q, ?_, hq⟩
  rw [localPattern?]
  split
  · exact absurd (by assumption) h
  · exact hq

/-- The tokens of a key are the occurrences of the wildcard that are not empty, one after the other.
A key has a pattern exactly when it has tokens, and then the pattern occurs exactly in the texts
that are the key with any texts in the places of its tokens. -/
theorem localPattern?_covers {w : Text} {p : Pattern} (hw : Pattern.ofText? w = some p)
    {c : Comparison} (hc : c.wildcard = some p) (key : Text) :
    ((∀ s, s ∈ c.tokens key ↔ s.start < s.stop ∧ ∃ m ∈ p.occurrences key, m.span = s) ∧
      (c.tokens key).Pairwise Pattern.Span.Before ∧
      key = Text.weave (partsAround key 0 (c.tokens key))
        ((c.tokens key).map fun s => Text.slice key s.start s.stop)) ∧
    (c.localPattern? key = none ↔ c.tokens key = []) ∧
    (c.tokens key ≠ [] → ∃ q, c.localPattern? key = some q ∧
      ∀ server, q.occursIn server = true ↔
        ∃ fillings, fillings.length = (c.tokens key).length ∧
          server = Text.weave (partsAround key 0 (c.tokens key)) fillings) := by
  obtain ⟨htokens, hbefore⟩ := tokens_spec hw hc key
  refine ⟨⟨fun s => mem_tokens hc, hbefore, ?_⟩, ⟨fun hnone => ?_, localPattern?_eq_none⟩,
    fun hne => ?_⟩
  · exact (weave_partsAround htokens hbefore).symm
  · by_contra hne
    obtain ⟨q, hq, -⟩ := localPattern?_eq_some hne
    rw [hnone] at hq
    cases hq
  · obtain ⟨q, hq, hread⟩ := localPattern?_eq_some hne
    refine ⟨q, hq, fun server => ?_⟩
    have hlength := length_partsAround key 0 (c.tokens key)
    cases hparts : partsAround key 0 (c.tokens key) with
    | nil =>
        rw [hparts] at hlength
        cases hlength
    | cons first parts =>
        rw [hparts] at hlength hread
        rw [Pattern.occursIn_anchored hread, Nat.succ.inj hlength]

theorem localPattern?_covers_sample :
    ∃ p q, Pattern.ofText? (Text.of "x*") = some p ∧
      (Comparison.mk (some p) false).localPattern? (Text.of "a.xx(b)x") = some q ∧
      (∀ server, q.occursIn server = true ↔ ∃ fillings, fillings.length = 2 ∧
        server = Text.weave [Text.of "a.", Text.of "(b)", []] fillings) ∧
      q.occursIn (Text.of "a.\n(b)(b)") = true ∧ q.occursIn (Text.of "a-y(b)") = false := by
  have hvalues : ((Pattern.ofText? (Text.of "x*")).map fun p =>
      let c := Comparison.mk (some p) false
      (c.tokens (Text.of "a.xx(b)x"), (c.localPattern? (Text.of "a.xx(b)x")).map fun q =>
        (q.occursIn (Text.of "a.\n(b)(b)"), q.occursIn (Text.of "a-y(b)")))) =
      some ([⟨2, 4⟩, ⟨7, 8⟩], some (true, false)) := by decide +kernel
  obtain ⟨p, hp, hvalues⟩ := Option.map_eq_some_iff.mp hvalues
  obtain ⟨htokens, hoccurs⟩ := Prod.mk.inj hvalues
  obtain ⟨q, hq, hoccurs⟩ := Option.map_eq_some_iff.mp hoccurs
  obtain ⟨htrue, hfalse⟩ := Prod.mk.inj hoccurs
  obtain ⟨-, -, hcovers⟩ :=
    localPattern?_covers hp (c := ⟨some p, false⟩) rfl (Text.of "a.xx(b)x")
  rw [htokens] at hcovers
  obtain ⟨q', hq', hcovers⟩ := hcovers (List.cons_ne_nil _ _)
  cases hq.symm.trans hq'
  exact ⟨p, q, hp, hq, hcovers, htrue, hfalse⟩

end Comparison

end WordingAudit
