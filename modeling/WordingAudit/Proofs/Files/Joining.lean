import Mathlib.Data.List.Infix
import WordingAudit.Files.Path
import WordingAudit.Proofs.Lists

/-!
Paths put together as text. A relative path stands after its directory and one slash, so the two
meet in nothing that either of them holds on its own.
-/

namespace WordingAudit

namespace Text

theorem startsWith_iff {t start : Text} : startsWith t start = true ↔ start <+: t :=
  List.isPrefixOf_iff_prefix

theorem endsWith_iff {t ending : Text} : endsWith t ending = true ↔ ending <:+ t :=
  List.isSuffixOf_iff_suffix

theorem endsWith_append {t : Text} (h : t ≠ []) (before : Text) (c : Char) :
    endsWith (before ++ t) [c] = endsWith t [c] := by
  rw [Bool.eq_iff_iff, endsWith_iff, endsWith_iff, List.singleton_suffix_iff_getLast?_eq_some,
    List.singleton_suffix_iff_getLast?_eq_some, List.getLast?_append_of_ne_nil before h]

/-- An ending without `c` does not reach over a `c`. -/
theorem suffix_append_iff {ending before t : Text} {c : Char} (hending : c ∉ ending)
    (hbefore : before = [] ∨ [c] <:+ before) : ending <:+ before ++ t ↔ ending <:+ t := by
  refine ⟨fun h => ?_, fun h => h.trans (List.suffix_append before t)⟩
  rcases List.suffix_or_suffix_of_suffix h (List.suffix_append before t) with hshort | ⟨reach, rfl⟩
  · exact hshort
  · -- the ending would begin in what stands before the text, and `c` is the last character there
    obtain ⟨front, hfront⟩ := h
    rw [← List.append_assoc] at hfront
    have hreach : reach <:+ before := ⟨front, List.append_cancel_right hfront⟩
    rcases List.eq_nil_or_concat reach with rfl | ⟨rest, d, rfl⟩
    · exact List.suffix_refl t
    · rcases hbefore with rfl | ⟨begins, rfl⟩
      · exact absurd (List.suffix_nil.mp hreach) (by simp)
      · obtain ⟨more, hmore⟩ := hreach
        rw [List.concat_eq_append, ← List.append_assoc] at hmore
        have hd : [d] = [c] := (List.append_inj' hmore rfl).2
        rw [List.singleton_inj.mp hd] at hending
        simp at hending

end Text

namespace Path

variable {base path : Text}

theorem isAbsolute_iff : isAbsolute path = true ↔ ['/'] <+: path := Text.startsWith_iff

/-- A directory as it stands in front of what is below it. -/
def opening (base : Text) : Text :=
  if base.isEmpty || Text.endsWith base ['/'] then base else base ++ ['/']

@[simp] theorem opening_nil : opening [] = [] := rfl

theorem join_of_absolute (h : isAbsolute path = true) (base : Text) : join base path = path := by
  rw [join, if_pos h]

theorem join_of_relative (h : isAbsolute path = false) (base : Text) :
    join base path = opening base ++ path := by
  rw [join, opening, h]
  cases base.isEmpty || Text.endsWith base ['/'] <;> rfl

/-- A directory is left as it is if it ends in a slash, or is given one. -/
theorem opening_cases (h : base ≠ []) :
    (opening base = base ∧ ['/'] <:+ base) ∨ (opening base = base ++ ['/'] ∧ ¬['/'] <:+ base) := by
  rw [opening, List.isEmpty_eq_false_iff.mpr h, Bool.false_or, ← Text.endsWith_iff]
  cases Text.endsWith base ['/'] <;> simp

theorem opening_eq_nil_or (base : Text) : opening base = [] ∨ ['/'] <:+ opening base := by
  by_cases h : base = []
  · exact .inl (h ▸ opening_nil)
  · rcases opening_cases h with ⟨hopening, hslash⟩ | ⟨hopening, -⟩
    · rw [hopening]
      exact .inr hslash
    · rw [hopening]
      exact .inr (List.suffix_append base ['/'])

theorem prefix_opening (base : Text) : base <+: opening base := by
  by_cases h : base = []
  · rw [h]
    exact List.nil_prefix
  · rcases opening_cases h with ⟨hopening, -⟩ | ⟨hopening, -⟩
    · rw [hopening]
    · rw [hopening]
      exact List.prefix_append base ['/']

/-- How a path below a directory ends is how it ends on its own. -/
theorem endsWith_join {ending : Text} (hslash : '/' ∉ ending) (base path : Text) :
    Text.endsWith (join base path) ending = Text.endsWith path ending := by
  cases h : isAbsolute path with
  | true => rw [join_of_absolute h]
  | false =>
      rw [join_of_relative h, Bool.eq_iff_iff, Text.endsWith_iff, Text.endsWith_iff]
      exact Text.suffix_append_iff hslash (opening_eq_nil_or base)

theorem isAbsolute_join (h : isAbsolute path = false) (base : Text) :
    isAbsolute (join base path) = isAbsolute base := by
  rw [join_of_relative h]
  cases base with
  | nil => exact h
  | cons c rest =>
      obtain ⟨more, hmore⟩ := prefix_opening (c :: rest)
      rw [← hmore]
      rfl

theorem isAbsolute_join_of_absolute (h : isAbsolute base = true) (path : Text) :
    isAbsolute (join base path) = true := by
  cases hpath : isAbsolute path with
  | true => rw [join_of_absolute hpath, hpath]
  | false => rw [isAbsolute_join hpath, h]

theorem join_ne_nil (h : path ≠ []) (base : Text) : join base path ≠ [] := by
  cases hpath : isAbsolute path with
  | true => rwa [join_of_absolute hpath]
  | false =>
      rw [join_of_relative hpath]
      exact List.append_ne_nil_of_right_ne_nil _ h

end Path

end WordingAudit
