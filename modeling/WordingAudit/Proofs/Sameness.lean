import WordingAudit.Config.Basic
import WordingAudit.Proofs.Equivalence
import WordingAudit.Proofs.Wildcard

/-!
When a project key and a wordings key are the same under the settings of an audit: by what the
settings say, without the patterns that a comparison makes of keys. Such a comparison finds just the
keys that are the same.
-/

namespace WordingAudit

/-- `filled` is what stands in `key` from `start` on, with any text in the place of each span. -/
inductive Text.Filled (key : Text) : Nat → List Pattern.Span → Text → Prop
  | rest (start : Nat) : Filled key start [] (key.drop start)
  | span {s : Pattern.Span} {spans : List Pattern.Span} {filled : Text} (start : Nat)
      (filling : Text) (h : Filled key s.stop spans filled) :
      Filled key start (s :: spans) (key.slice start s.start ++ filling ++ filled)

/-- Where a pattern occurs in a text without being empty there. -/
def Pattern.places (p : Pattern) (t : Text) : List Pattern.Span :=
  ((p.occurrences t).map (·.span)).filter fun s => s.start < s.stop

/-- The project key `key` and the wordings key `server` are the same: they are equal; or there are
places of the wildcard in `key`, and `server` has any texts there and is otherwise like `key`; or
`key` is a part of `server`, and the settings accept that. -/
inductive Config.Same (c : Config) (key server : Text) : Prop
  | equal (h : key = server)
  | filled {wildcard : Text} {p : Pattern} (hwildcard : c.wildcard = some wildcard)
      (hp : Pattern.ofText? wildcard = some p) (hplaces : p.places key ≠ [])
      (h : key.Filled 0 (p.places key) server)
  | part (hpart : c.acceptPart = true) (h : key <:+: server)

theorem Text.filled_iff_weave {key filled : Text} {start : Nat} {spans : List Pattern.Span} :
    key.Filled start spans filled ↔ ∃ fillings, fillings.length = spans.length ∧
      filled = weave (Comparison.partsAround key start spans) fillings := by
  induction spans generalizing start filled with
  | nil =>
      constructor
      · rintro ⟨⟩
        exact ⟨[], rfl, (weave_singleton _).symm⟩
      · rintro ⟨fillings, hlength, rfl⟩
        obtain rfl := List.length_eq_zero_iff.mp hlength
        rw [Comparison.partsAround, weave_singleton]
        exact .rest start
  | cons s spans ih =>
      constructor
      · rintro (_ | ⟨_, filling, h⟩)
        obtain ⟨fillings, hlength, rfl⟩ := ih.mp h
        exact ⟨filling :: fillings, congrArg (· + 1) hlength, rfl⟩
      · rintro ⟨_ | ⟨filling, fillings⟩, hlength, rfl⟩
        · cases hlength
        · exact .span start filling (ih.mpr ⟨fillings, Nat.succ.inj hlength, rfl⟩)

namespace Comparison

variable {c : Comparison} {key server : Text}

/-- The pattern of a key occurs in the texts that fill its tokens. -/
theorem exists_localPattern?_occursIn :
    (∃ q, c.localPattern? key = some q ∧ q.occursIn server = true) ↔
      c.tokens key ≠ [] ∧ key.Filled 0 (c.tokens key) server := by
  by_cases hne : c.tokens key = []
  · simp [localPattern?_eq_none hne, hne]
  · obtain ⟨q, hq, hread⟩ := localPattern?_eq_some hne
    have hlength := length_partsAround key 0 (c.tokens key)
    obtain ⟨first, parts, hparts⟩ := List.exists_cons_of_length_eq_add_one hlength
    rw [hparts] at hread hlength
    rw [Text.filled_iff_weave, hparts, ← Nat.succ.inj hlength, ← Pattern.occursIn_anchored hread]
    simp [hq, hne]

theorem tokens_ne_nil :
    c.tokens key ≠ [] ∧ key.Filled 0 (c.tokens key) server ↔
      ∃ p, c.wildcard = some p ∧ p.places key ≠ [] ∧ key.Filled 0 (p.places key) server := by
  rw [tokens]
  cases c.wildcard with
  | none => simp
  | some p => simp [Pattern.places]

end Comparison

namespace Config

variable {c : Config} {comparison : Comparison}

theorem comparison_eq (h : c.comparison = .ok comparison) :
    comparison = ⟨c.wildcard.bind Pattern.ofText?, c.acceptPart⟩ := by
  rw [Config.comparison] at h
  cases hwildcard : c.wildcard with
  | none =>
      rw [hwildcard] at h
      cases h
      rfl
  | some wildcard =>
      rw [hwildcard, Comparison.ofSettings_some, compilePattern] at h
      rw [Option.bind_some]
      cases hread : Pattern.ofText? wildcard with
      | none =>
          rw [hread] at h
          cases h
      | some p =>
          rw [hread] at h
          cases h
          rfl

/-- The comparison that is made from the settings finds the keys that are the same. -/
theorem equivalent_iff_same (h : c.comparison = .ok comparison) {key server : Text} :
    comparison.Equivalent key server ↔ c.Same key server := by
  rw [Comparison.Equivalent, Comparison.exists_localPattern?_occursIn, Comparison.tokens_ne_nil,
    comparison_eq h]
  dsimp only
  constructor
  · rintro (heq | ⟨p, hp, hplaces, hfilled⟩ | ⟨hpart, hinfix⟩)
    · exact .equal heq
    · obtain ⟨wildcard, hwildcard, hread⟩ := Option.bind_eq_some_iff.mp hp
      exact .filled hwildcard hread hplaces hfilled
    · exact .part hpart hinfix
  · rintro (heq | ⟨hwildcard, hread, hplaces, hfilled⟩ | ⟨hpart, hinfix⟩)
    · exact .inl heq
    · have hp := Option.bind_eq_some_iff.mpr ⟨_, hwildcard, hread⟩
      exact .inr (.inl ⟨_, hp, hplaces, hfilled⟩)
    · exact .inr (.inr ⟨hpart, hinfix⟩)

end Config

end WordingAudit
