import WordingAudit.Proofs.Composition
import WordingAudit.Proofs.Extraction

/-!
The three kinds of steps look for a pattern in the same places. What an ignoring step lets pass has
no occurrence that an extraction could take from, and nothing that a replacement could change; a
text that it drops has an occurrence, of which an extraction takes the whole unless it is empty.
-/

namespace WordingAudit

namespace Pattern

variable {source t : Text} {p : Pattern} {m : Match}

/-- The list of occurrences begins with the first occurrence. -/
theorem mem_occurrences_of_find (h : p.find t = some m) : m ∈ p.occurrences t := by
  have hfirst : p.findAt (Cursor.start t) = some m := h
  have hkept : ¬(decide (m.span.start = m.span.stop) && decide (none = some m.span.stop)) := by
    simp
  rw [occurrences, occurrencesFrom, hfirst]
  dsimp only
  rw [if_neg hkept]
  exact List.mem_cons_self

theorem occurrences_eq_nil_iff : p.occurrences t = [] ↔ p.occursIn t = false := by
  rw [occursIn]
  cases hfind : p.find t with
  | none =>
      have hfirst : p.findAt (Cursor.start t) = none := hfind
      refine iff_of_true ?_ rfl
      rw [occurrences, occurrencesFrom, hfirst]
  | some m =>
      exact iff_of_false (List.ne_nil_of_mem (mem_occurrences_of_find hfind)) Bool.noConfusion

theorem replaceFirst_of_not_occursIn (h : p.occursIn t = false) (replacement : Match → Text) :
    p.replaceFirst replacement t = t := by
  rw [occursIn, Option.isSome_eq_false_iff, Option.isNone_iff_eq_none] at h
  rw [replaceFirst, h]

/-- A pattern occurs in a text when its expression fits somewhere in it. -/
theorem occursIn_iff_fits (hp : ofText? source = some p) :
    p.occursIn t = true ↔ ∃ e start stop, read? source = some e ∧
      (Cursor.start t).Ahead start ∧ e.Fits start stop := by
  obtain ⟨e, hread, -⟩ := Option.map_eq_some_iff.mp hp
  rw [occursIn, find, findAt_isSome hp hread]
  constructor
  · rintro ⟨start, stop, hahead, hfits⟩
    exact ⟨e, start, stop, hread, hahead, hfits⟩
  · rintro ⟨e', start, stop, hread', hahead, hfits⟩
    cases hread.symm.trans hread'
    exact ⟨start, stop, hahead, hfits⟩

end Pattern

namespace CompiledStep

variable {source t : Text} {p : Pattern}

theorem results_extract_of_not_occursIn (h : p.occursIn t = false) (group : Nat) :
    (extract p group).results t = [] := by
  rw [results, Pattern.occurrences_eq_nil_iff.mpr h]
  rfl

theorem results_replace_of_not_occursIn (h : p.occursIn t = false) (template : Text) :
    (replace p template).results t = [t] := by
  rw [results, Template.replaceIn, Pattern.replaceFirst_of_not_occursIn h]

theorem keys_ignore_extract (p : Pattern) (group : Nat) (further : List CompiledStep) (t : Text) :
    keys (ignore p :: extract p group :: further) t = [] := by
  rw [keys_ignore]
  split
  · rfl
  · rename_i hnone
    rw [keys, results_extract_of_not_occursIn (eq_false_of_ne_true hnone)]
    rfl

theorem keys_ignore_replace (p : Pattern) (template : Text) (further : List CompiledStep)
    (t : Text) : keys (ignore p :: replace p template :: further) t =
      keys (ignore p :: further) t := by
  rw [keys_ignore, keys_ignore]
  split
  · rfl
  · rename_i hnone
    rw [keys, results_replace_of_not_occursIn (eq_false_of_ne_true hnone)]
    exact List.flatMap_singleton _ _

theorem keys_ignore_alone (ht : t ≠ []) : keys [ignore p] t = [] ↔ p.occursIn t = true := by
  have hfull : keys [] t = [t] := if_neg (by simpa using ht)
  rw [keys_ignore, hfull]
  cases p.occursIn t <;> simp

/-- With group 0, the occurrences that are not empty are taken, and nothing else. -/
theorem keys_extract_whole (hp : Pattern.ofText? source = some p) (t : Text) :
    keys [extract p 0] t =
      ((p.occurrences t).filter fun m => m.span.start < m.span.stop).map fun m =>
        t.slice m.span.start m.span.stop := by
  have hkeys : keys [extract p 0] t = (extract p 0).results t :=
    ((results_eq (extract p 0) t).trans (if_neg id)).symm
  rw [hkeys, results, ← List.filterMap_eq_map, List.filterMap_filter]
  refine List.filterMap_congr fun m hm => ?_
  obtain ⟨c, hc⟩ := Pattern.findAt_of_mem_occurrencesFrom hm
  have hwhole := Pattern.group?_zero hc
  rw [groupOf?_eq, groupSpan?, hwhole, Option.filter_some]
  · by_cases hlt : m.span.start < m.span.stop <;> simp [hlt]
  · intro s hs
    cases hwhole.symm.trans hs
    exact (Pattern.inside_of_mem_occurrences hp hm).2.2

/-- An extraction of whole occurrences takes nothing only where all of them are empty. -/
theorem keys_extract_whole_eq_nil (hp : Pattern.ofText? source = some p) :
    keys [extract p 0] t = [] ↔ ∀ m ∈ p.occurrences t, m.span.start = m.span.stop := by
  rw [keys_extract_whole hp, List.map_eq_nil_iff, List.filter_eq_nil_iff]
  refine forall₂_congr fun m hm => ?_
  have hle : m.span.start ≤ m.span.stop := (Pattern.inside_of_mem_occurrences hp hm).2.1
  rw [decide_eq_true_iff]
  omega

end CompiledStep

namespace CompiledRule

open Pattern (Cursor)

/-- After a step that ignores a pattern, an extraction with the same pattern takes nothing, and a
replacement changes nothing. A text that such a step drops is one in which the expression of the
pattern fits somewhere; there is an occurrence then, and an extraction of whole occurrences takes a
key, or else all of them are empty. -/
theorem ignore_agrees {source : Text} {p : Pattern} (hp : Pattern.ofText? source = some p)
    (t : Text) (depth : UInt64) :
    (∀ group further,
      ((CompiledRule.mk (.ignore p) (.extract p group :: further)).apply t depth).value = []) ∧
    (∀ template further,
      ((CompiledRule.mk (.ignore p) (.replace p template :: further)).apply t depth).value =
        ((CompiledRule.mk (.ignore p) further).apply t depth).value) ∧
    (t ≠ [] →
      (((CompiledRule.mk (.ignore p) []).apply t depth).value = [] ↔
        ∃ e start stop, Pattern.read? source = some e ∧ (Cursor.start t).Ahead start ∧
          e.Fits start stop) ∧
      (((CompiledRule.mk (.ignore p) []).apply t depth).value = [] →
        p.occurrences t ≠ [] ∧
        (((CompiledRule.mk (.extract p 0) []).apply t depth).value ≠ [] ∨
          ∀ m ∈ p.occurrences t, m.span.start = m.span.stop))) := by
  simp only [apply_value, steps]
  refine ⟨fun group further => CompiledStep.keys_ignore_extract p group further t,
    fun template further => CompiledStep.keys_ignore_replace p template further t, fun ht => ?_⟩
  have hdrops := CompiledStep.keys_ignore_alone (p := p) ht
  refine ⟨hdrops.trans (Pattern.occursIn_iff_fits hp), fun hnone => ⟨fun hempty => ?_, ?_⟩⟩
  · have hoccurs := hdrops.mp hnone
    rw [Pattern.occurrences_eq_nil_iff.mp hempty] at hoccurs
    cases hoccurs
  · rw [or_iff_not_imp_left, not_not]
    exact (CompiledStep.keys_extract_whole_eq_nil hp).mp

/-- A pattern that fits the empty text occurs in every text. In the first of these an extraction
takes what is not empty, in the second there is nothing of that kind. -/
theorem ignore_agrees_sample :
    ∃ p, Pattern.ofText? (Text.of "x*") = some p ∧
      ((CompiledRule.mk (.ignore p) [.extract p 0]).apply (Text.of "axb") 0).value = [] ∧
      ((CompiledRule.mk (.extract p 0) []).apply (Text.of "axb") 0).value = [['x']] ∧
      ((CompiledRule.mk (.ignore p) []).apply (Text.of "ab") 0).value = [] ∧
      ((CompiledRule.mk (.extract p 0) []).apply (Text.of "ab") 0).value = [] ∧
      p.occurrences (Text.of "ab") ≠ [] ∧
      ∀ m ∈ p.occurrences (Text.of "ab"), m.span.start = m.span.stop := by
  have hvalues : ((Pattern.ofText? (Text.of "x*")).map fun p =>
      [((CompiledRule.mk (.extract p 0) []).apply (Text.of "axb") 0).value,
        ((CompiledRule.mk (.ignore p) []).apply (Text.of "ab") 0).value,
        ((CompiledRule.mk (.extract p 0) []).apply (Text.of "ab") 0).value]) =
      some [[['x']], [], []] := by decide +kernel
  obtain ⟨p, hp, hvalues⟩ := Option.map_eq_some_iff.mp hvalues
  simp only [List.cons.injEq, and_true] at hvalues
  obtain ⟨htaken, hdropped, hnone⟩ := hvalues
  obtain ⟨hextract, -⟩ := ignore_agrees hp (Text.of "axb") 0
  obtain ⟨-, -, hconverse⟩ := ignore_agrees hp (Text.of "ab") 0
  obtain ⟨hoccurs, htakes⟩ := (hconverse (by decide)).2 hdropped
  exact ⟨p, hp, hextract 0 [], htaken, hdropped, hnone, hoccurs,
    htakes.resolve_left (not_not_intro hnone)⟩

end CompiledRule

end WordingAudit
