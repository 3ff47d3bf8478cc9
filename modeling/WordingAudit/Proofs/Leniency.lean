import WordingAudit.Proofs.Selection

/-!
The more a comparison takes for the same, the fewer keys are left over and the more are shared. Keys
added to one side can only find equivalents for the other, and a token or the permission to be a
part is added to equality and never put in its place.
-/

namespace WordingAudit

namespace Comparison

variable {c c' : Comparison} {first first' second second' : List Text} {side : Side} {key : Text}

/-- All keys that `c` takes for the same are the same for `c'` too. -/
def NoStricter (c' c : Comparison) : Prop :=
  ∀ key server, c.Equivalent key server → c'.Equivalent key server

theorem NoStricter.refl (c : Comparison) : c.NoStricter c := fun _ _ h => h

/-- To be a part is one more way to be the same. -/
theorem noStricter_acceptPart (wildcard : Option Pattern) (part : Bool) :
    (Comparison.mk wildcard true).NoStricter ⟨wildcard, part⟩ := by
  rintro key server (heq | hpattern | ⟨-, hpart⟩)
  · exact .inl heq
  · exact .inr (.inl hpattern)
  · exact .inr (.inr ⟨rfl, hpart⟩)

/-- Without a wildcard no key has a pattern, so there is nothing that a wildcard could take away. -/
theorem noStricter_wildcard (p : Pattern) (part : Bool) :
    (Comparison.mk (some p) part).NoStricter ⟨none, part⟩ := by
  rintro key server (heq | ⟨q, hq, -⟩ | hpart)
  · exact .inl heq
  · cases hq
  · exact .inr (.inr hpart)

/-- A key keeps its equivalent when keys are added and the comparison gets no stricter. -/
theorem HasEquivalent.mono (hc : c'.NoStricter c) (hfirst : first ⊆ first')
    (hsecond : second ⊆ second') (h : c.HasEquivalent first second side key) :
    c'.HasEquivalent first' second' side key := by
  cases side with
  | first =>
      obtain ⟨server, hserver, hequivalent⟩ := h
      exact ⟨server, hsecond hserver, hc key server hequivalent⟩
  | second =>
      obtain ⟨l, hl, hequivalent⟩ := h
      exact ⟨l, hfirst hl, hc l key hequivalent⟩

theorem diff_subset (hside : side.pick first' second' ⊆ side.pick first second)
    (hkeeps : ∀ key, c.HasEquivalent first second side key →
      c'.HasEquivalent first' second' side key) :
    (c'.diff first' second' side).value.toList ⊆ (c.diff first second side).value.toList := by
  intro key hkey
  obtain ⟨hmem, hnone⟩ := mem_diff.mp hkey
  exact mem_diff.mpr ⟨hside hmem, fun hsome => hnone (hkeeps key hsome)⟩

theorem intersect_subset (hside : side.pick first second ⊆ side.pick first' second')
    (hkeeps : ∀ key, c.HasEquivalent first second side key →
      c'.HasEquivalent first' second' side key) :
    (c.intersect first second side).value.toList ⊆
      (c'.intersect first' second' side).value.toList := by
  intro key hkey
  obtain ⟨hmem, hsome⟩ := mem_intersect.mp hkey
  exact mem_intersect.mpr ⟨hside hmem, hkeeps key hsome⟩

/-- Of all keys and for each side, `c'` leaves over no more than `c` and shares no less. -/
def Narrows (c' c : Comparison) : Prop := ∀ first second side,
  (c'.diff first second side).value.toList ⊆ (c.diff first second side).value.toList ∧
    (c.intersect first second side).value.toList ⊆ (c'.intersect first second side).value.toList

theorem NoStricter.narrows (h : c'.NoStricter c) : c'.Narrows c := by
  intro first second side
  have hkeeps : ∀ key, c.HasEquivalent first second side key →
      c'.HasEquivalent first second side key :=
    fun key hsome => hsome.mono h (List.Subset.refl _) (List.Subset.refl _)
  exact ⟨diff_subset (List.Subset.refl _) hkeeps, intersect_subset (List.Subset.refl _) hkeeps⟩

/-- Keys added to the project take keys of the wordings off what is left over of them, and keys
added to the wordings do the same for the project and leave over no less of the wordings. Settings
that accept a part, or name a token where there was none, leave over no more and share no less. -/
theorem diff_narrows :
    (∀ (c : Comparison) first first' second, first ⊆ first' →
      (c.diff first' second .second).value.toList ⊆ (c.diff first second .second).value.toList) ∧
    (∀ (c : Comparison) first second second', second ⊆ second' →
      (c.diff first second' .first).value.toList ⊆ (c.diff first second .first).value.toList) ∧
    (∀ (c : Comparison) first second second', second ⊆ second' →
      (c.diff first second .second).value.toList ⊆ (c.diff first second' .second).value.toList) ∧
    (∀ wildcard part c, ofSettings wildcard part = .ok c →
      ∃ c', ofSettings wildcard true = .ok c' ∧ c'.Narrows c) ∧
    (∀ token part c', ofSettings (some token) part = .ok c' →
      ∃ c, ofSettings none part = .ok c ∧ c'.Narrows c) := by
  refine ⟨fun c first first' second h => ?_, fun c first second second' h => ?_,
    fun c first second second' h => ?_, fun wildcard part c h => ?_, fun token part c' h => ?_⟩
  · refine diff_subset (List.Subset.refl _) fun key hsome => ?_
    exact hsome.mono (.refl c) h (List.Subset.refl _)
  · refine diff_subset (List.Subset.refl _) fun key hsome => ?_
    exact hsome.mono (.refl c) (List.Subset.refl _) h
  · exact diff_subset h fun key hsome => hsome
  · cases wildcard with
    | none =>
        cases h
        exact ⟨_, rfl, (noStricter_acceptPart none part).narrows⟩
    | some token =>
        rw [ofSettings_some] at h
        obtain ⟨p, hp, rfl⟩ := Result.map_eq_ok.mp h
        refine ⟨_, ?_, (noStricter_acceptPart (some p) part).narrows⟩
        rw [ofSettings_some, hp]
        rfl
  · rw [ofSettings_some] at h
    obtain ⟨p, -, rfl⟩ := Result.map_eq_ok.mp h
    exact ⟨_, rfl, (noStricter_wildcard p part).narrows⟩

/-- A key with a token and one that is a part: each setting takes one key of the wordings off, and a
key added to the project takes off another. -/
theorem diff_narrows_sample :
    [Text.of "a.*", Text.of "b"] ⊆ [Text.of "a.*", Text.of "b", Text.of "d"] ∧
      ∃ strict token part,
        ofSettings none false = .ok strict ∧ ofSettings (some (Text.of "\\*")) false = .ok token ∧
        ofSettings (some (Text.of "\\*")) true = .ok part ∧
        token.Narrows strict ∧ part.Narrows token ∧
        (part.diff [Text.of "a.*", Text.of "b"] [Text.of "a.1", Text.of "bc", Text.of "d"]
          .second).value = ⟨[Text.of "d"], by decide⟩ ∧
        (part.diff [Text.of "a.*", Text.of "b", Text.of "d"]
          [Text.of "a.1", Text.of "bc", Text.of "d"] .second).value.toList ⊆ [Text.of "d"] := by
  have hvalue : ((ofSettings (some (Text.of "\\*")) true).toOption.map fun part =>
      (part.diff [Text.of "a.*", Text.of "b"] [Text.of "a.1", Text.of "bc", Text.of "d"]
        .second).value) = some ⟨[Text.of "d"], by decide⟩ := by decide +kernel
  have hsubset : [Text.of "a.*", Text.of "b"] ⊆ [Text.of "a.*", Text.of "b", Text.of "d"] := by
    decide
  obtain ⟨hfirst, -, -, hpart, htoken⟩ := diff_narrows
  cases hsettings : ofSettings (some (Text.of "\\*")) false with
  | error e =>
      rw [ofSettings_some] at hsettings hvalue
      rw [Result.map_eq_error.mp hsettings] at hvalue
      cases hvalue
  | ok token =>
      obtain ⟨strict, hstrict, hnarrows⟩ := htoken _ _ _ hsettings
      obtain ⟨part, haccepts, hnarrows'⟩ := hpart _ _ _ hsettings
      rw [haccepts] at hvalue
      have hleft := Option.some.inj hvalue
      refine ⟨hsubset, strict, token, part, hstrict, rfl, haccepts, hnarrows, hnarrows', hleft, ?_⟩
      have hfewer := hfirst part _ _ [Text.of "a.1", Text.of "bc", Text.of "d"] hsubset
      dsimp only at hleft
      rwa [hleft] at hfewer

end Comparison

end WordingAudit
