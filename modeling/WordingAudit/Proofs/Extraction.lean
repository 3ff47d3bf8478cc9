import Mathlib.Algebra.GroupWithZero.Nat
import Mathlib.Data.List.Basic
import WordingAudit.Proofs.Chain
import WordingAudit.Proofs.Pattern.Captures
import WordingAudit.Proofs.Lists

/-!
Rules without replacements take their keys out of the text as they stand there. The keys are parts
of the text that are not empty, follow one another and do not overlap.
-/

namespace WordingAudit

namespace Pattern.Span

/-- The span with its offsets counted from an earlier beginning. -/
def shift (offset : Nat) (s : Span) : Span := ⟨offset + s.start, offset + s.stop⟩

end Pattern.Span

open Pattern (Span)

/-- Spans of parts of a text that are not empty and do not overlap, from left to right. -/
structure Apart (t : Text) (spans : List Span) : Prop where
  inside : ∀ s ∈ spans, s.start < s.stop ∧ s.stop ≤ t.length
  ascending : spans.Pairwise Span.Before

/-- The texts at spans of a text. -/
def Text.cut (t : Text) (spans : List Span) : List Text :=
  spans.map fun s => t.slice s.start s.stop

namespace Apart

variable {t : Text} {spans : List Span}

theorem whole (h : t ≠ []) : Apart t [⟨0, t.length⟩] := by
  refine ⟨fun s hs => ?_, List.pairwise_singleton _ _⟩
  rw [List.mem_singleton.mp hs]
  exact ⟨List.length_pos_iff.mpr h, Nat.le_refl _⟩

theorem nil : Apart t [] := ⟨fun _ hs => absurd hs List.not_mem_nil, .nil⟩

theorem ne_nil_of_mem_cut (h : Apart t spans) {v : Text} (hv : v ∈ t.cut spans) : v ≠ [] := by
  obtain ⟨s, hs, rfl⟩ := List.mem_map.mp hv
  obtain ⟨hlt, hle⟩ := h.inside s hs
  apply List.ne_nil_of_length_pos
  rw [Text.length_slice hle]
  omega

/-- Parts of a part stand inside it. -/
theorem shift {s : Span} (hs : s.start < s.stop ∧ s.stop ≤ t.length) {inner : List Span}
    (h : Apart (t.slice s.start s.stop) inner) :
    Apart t (inner.map (Span.shift s.start)) ∧
      (∀ u ∈ inner.map (Span.shift s.start), s.start ≤ u.start ∧ u.stop ≤ s.stop) ∧
      t.cut (inner.map (Span.shift s.start)) = (t.slice s.start s.stop).cut inner := by
  have hlength : (t.slice s.start s.stop).length = s.stop - s.start := Text.length_slice hs.2
  have hinner : ∀ u ∈ inner, u.start < u.stop ∧ s.start + u.stop ≤ s.stop := by
    intro u hu
    have hbounds := h.inside u hu
    omega
  refine ⟨⟨?_, ?_⟩, ?_, ?_⟩
  · rw [List.forall_mem_map]
    intro u hu
    have hbounds := hinner u hu
    simp only [Span.shift]
    omega
  · refine List.pairwise_map.mpr (h.ascending.imp fun hbefore => ?_)
    simp only [Span.Before, Span.shift] at hbefore ⊢
    omega
  · rw [List.forall_mem_map]
    intro u hu
    have hbounds := hinner u hu
    simp only [Span.shift]
    omega
  · rw [Text.cut, Text.cut, List.map_map]
    refine List.map_congr_left fun u hu => ?_
    exact (Text.slice_slice (hinner u hu).2).symm

/-- If parts are taken from each part of a text, the parts of all of them are apart. -/
theorem flatMap (h : Apart t spans) {f : Text → List Text}
    (hf : ∀ v ∈ t.cut spans, ∃ inner, Apart v inner ∧ f v = v.cut inner) :
    ∃ all, Apart t all ∧ (∀ u ∈ all, ∃ s ∈ spans, s.start ≤ u.start ∧ u.stop ≤ s.stop) ∧
      (t.cut spans).flatMap f = t.cut all := by
  induction spans with
  | nil => exact ⟨[], nil, fun _ hu => absurd hu List.not_mem_nil, rfl⟩
  | cons s rest ih =>
      obtain ⟨hbefore, hrest⟩ := List.pairwise_cons.mp h.ascending
      obtain ⟨hs, hinside⟩ := List.forall_mem_cons.mp h.inside
      obtain ⟨hfirst, hothers⟩ := List.forall_mem_cons.mp hf
      obtain ⟨inner, hinner, hvalue⟩ := hfirst
      obtain ⟨happart, hwithin, hcut⟩ := shift hs hinner
      obtain ⟨all, hall, hlater, hvalues⟩ := ih ⟨hinside, hrest⟩ hothers
      refine ⟨inner.map (Span.shift s.start) ++ all, ⟨?_, ?_⟩, ?_, ?_⟩
      · exact List.forall_mem_append.mpr ⟨happart.inside, hall.inside⟩
      · refine List.pairwise_append.mpr ⟨happart.ascending, hall.ascending, fun u hu v hv => ?_⟩
        obtain ⟨s', hs', hstart, -⟩ := hlater v hv
        have hsep : s.stop ≤ s'.start := hbefore s' hs'
        have hstop := (hwithin u hu).2
        exact Nat.le_trans hstop (Nat.le_trans hsep hstart)
      · intro u hu
        rcases List.mem_append.mp hu with hu | hu
        · exact ⟨s, List.mem_cons_self, hwithin u hu⟩
        · obtain ⟨s', hs', hbounds⟩ := hlater u hu
          exact ⟨s', List.mem_cons_of_mem s hs', hbounds⟩
      · have hsplit : t.cut (s :: rest) = t.slice s.start s.stop :: t.cut rest := rfl
        rw [hsplit, List.flatMap_cons, hvalue, hvalues, ← hcut]
        exact List.map_append.symm

/-- Parts that are apart are together no longer than the text from where the first may begin. -/
theorem sum_length_le (h : Apart t spans) {low : Nat} (hlow : low ≤ t.length)
    (hspans : ∀ s ∈ spans, low ≤ s.start) :
    ((t.cut spans).map List.length).sum + low ≤ t.length := by
  induction spans generalizing low with
  | nil => simpa [Text.cut] using hlow
  | cons s rest ih =>
      obtain ⟨hbefore, hrest⟩ := List.pairwise_cons.mp h.ascending
      obtain ⟨hs, hinside⟩ := List.forall_mem_cons.mp h.inside
      have hstart := hspans s List.mem_cons_self
      have hsum := ih ⟨hinside, hrest⟩ hs.2 hbefore
      have hsplit : t.cut (s :: rest) = t.slice s.start s.stop :: t.cut rest := rfl
      rw [hsplit, List.map_cons, List.sum_cons, Text.length_slice hs.2]
      omega

end Apart

namespace CompiledStep

/-- The step replaces nothing, and its pattern is one that has been read. -/
def Selects : CompiledStep → Prop
  | extract p _ => ∃ source, Pattern.ofText? source = some p
  | replace .. => False
  | ignore p => ∃ source, Pattern.ofText? source = some p

/-- Where a group is in one occurrence, if it takes part and is not empty. -/
def groupSpan? (group : Nat) (m : Pattern.Match) : Option Span :=
  (m.group? group).filter fun s => s.start < s.stop

theorem groupOf?_eq {group : Nat} {t : Text} {m : Pattern.Match}
    (h : ∀ s, m.group? group = some s → s.stop ≤ t.length) :
    groupOf? group t m = (groupSpan? group m).map fun s => t.slice s.start s.stop := by
  rw [groupOf?, groupSpan?, Pattern.Match.text?]
  cases hm : m.group? group with
  | none => rfl
  | some s =>
      have hlength : (t.slice s.start s.stop).length = s.stop - s.start :=
        Text.length_slice (h s hm)
      have hempty : (!(t.slice s.start s.stop).isEmpty) = decide (s.start < s.stop) := by
        rw [Bool.eq_iff_iff, Bool.not_eq_true', List.isEmpty_eq_false_iff, decide_eq_true_iff,
          ← List.length_pos_iff, hlength]
        omega
      rw [Option.map_some, Option.filter_some, Option.filter_some, hempty]
      split <;> rfl

/-- The groups that an extraction takes are apart, as the occurrences they lie in are. -/
theorem results_extract {source : Text} {p : Pattern} (hp : Pattern.ofText? source = some p)
    (group : Nat) (t : Text) :
    ∃ spans, Apart t spans ∧ (extract p group).results t = t.cut spans := by
  have hgroup : ∀ m ∈ p.occurrences t, ∀ s, m.group? group = some s →
      s.Inside m.span.start m.span.stop := fun m hm s hs => Pattern.group_inside hp hm hs
  have hstop : ∀ m ∈ p.occurrences t, m.span.stop ≤ t.length := fun m hm =>
    (Pattern.inside_of_mem_occurrences hp hm).2.2
  have hbefore := Pattern.pairwise_before_occurrences hp t
  refine ⟨(p.occurrences t).filterMap (groupSpan? group), ⟨fun s hs => ?_, ?_⟩, ?_⟩
  · obtain ⟨m, hm, hs⟩ := List.mem_filterMap.mp hs
    obtain ⟨hs, hlt⟩ := Option.filter_eq_some_iff.mp hs
    exact ⟨of_decide_eq_true hlt, Nat.le_trans (hgroup m hm s hs).2.2 (hstop m hm)⟩
  · refine List.pairwise_filterMap.mpr (hbefore.imp_of_mem fun hm hn hmn s hs u hu => ?_)
    have hs := hgroup _ hm s (Option.filter_eq_some_iff.mp hs).1
    have hu := hgroup _ hn u (Option.filter_eq_some_iff.mp hu).1
    exact Nat.le_trans hs.2.2 (Nat.le_trans hmn hu.1)
  · rw [results, Text.cut, List.map_filterMap]
    refine List.filterMap_congr fun m hm => groupOf?_eq fun s hs => ?_
    exact Nat.le_trans (hgroup m hm s hs).2.2 (hstop m hm)

/-- Steps that replace nothing take parts of the text that are apart. -/
theorem keys_of_selects {steps : List CompiledStep} (h : ∀ s ∈ steps, s.Selects) (t : Text) :
    ∃ spans, Apart t spans ∧ keys steps t = t.cut spans := by
  induction steps generalizing t with
  | nil =>
      by_cases ht : t = []
      · exact ⟨[], Apart.nil, by rw [ht]; rfl⟩
      · refine ⟨[⟨0, t.length⟩], Apart.whole ht, ?_⟩
        have hslice : t.slice 0 t.length = t := List.take_length
        rw [keys, if_neg (by simpa using ht), Text.cut, List.map_singleton, hslice]
  | cons s rest ih =>
      obtain ⟨hs, hrest⟩ := List.forall_mem_cons.mp h
      cases s with
      | extract p group =>
          obtain ⟨source, hp⟩ := hs
          obtain ⟨spans, hspans, hresults⟩ := results_extract hp group t
          obtain ⟨all, hall, -, hkeys⟩ := hspans.flatMap (f := keys rest) fun v _ => ih hrest v
          exact ⟨all, hall, by rw [keys, hresults, hkeys]⟩
      | replace p template => exact hs.elim
      | ignore p =>
          rw [keys_ignore]
          split
          · exact ⟨[], Apart.nil, rfl⟩
          · exact ih hrest t

end CompiledStep

namespace CompiledRule

/-- The keys of a rule that replaces nothing stand in the text one after the other without
overlapping; none is empty, and together they are no longer than the text. -/
theorem apply_selects {r : CompiledRule} (h : ∀ s ∈ r.steps, s.Selects) (t : Text)
    (depth : UInt64) :
    (∃ spans : List Span, (∀ s ∈ spans, s.start < s.stop ∧ s.stop ≤ t.length) ∧
      spans.Pairwise (fun s u => s.stop ≤ u.start) ∧
      (r.apply t depth).value = spans.map fun s => t.slice s.start s.stop) ∧
    (∀ key ∈ (r.apply t depth).value, key ≠ [] ∧ key <:+: t) ∧
    ((r.apply t depth).value.map List.length).sum ≤ t.length := by
  obtain ⟨spans, hspans, hkeys⟩ := CompiledStep.keys_of_selects h t
  rw [apply_value, hkeys]
  refine ⟨⟨spans, hspans.inside, hspans.ascending, rfl⟩, fun key hkey => ⟨?_, ?_⟩, ?_⟩
  · exact hspans.ne_nil_of_mem_cut hkey
  · obtain ⟨s, -, rfl⟩ := List.mem_map.mp hkey
    exact Text.slice_infix t s.start s.stop
  · exact hspans.sum_length_le (Nat.zero_le _) fun _ _ => Nat.zero_le _

/-- Groups of occurrences, some of which are empty, then a test, then single characters of what is
left: three keys, each from its own place in the text. -/
theorem apply_selects_sample :
    ∃ p q c, (∀ s ∈ (CompiledRule.mk (.extract p 1) [.ignore q, .extract c 0]).steps, s.Selects) ∧
      let keys := ((CompiledRule.mk (.extract p 1) [.ignore q, .extract c 0]).apply
        (Text.of "<ab><><x1>ab<c>") 0).value
      keys = [['a'], ['b'], ['c']] ∧
        (∃ spans : List Span, (∀ s ∈ spans, s.start < s.stop ∧ s.stop ≤ 15) ∧
          (spans.Pairwise fun s u => s.stop ≤ u.start) ∧
          keys = spans.map fun s => (Text.of "<ab><><x1>ab<c>").slice s.start s.stop) ∧
        (∀ key ∈ keys, key ≠ [] ∧ key <:+: Text.of "<ab><><x1>ab<c>") ∧
        (keys.map List.length).sum ≤ 15 := by
  have hkeys : ((Pattern.ofText? (Text.of "<([a-z1]*)>")).bind fun p =>
      (Pattern.ofText? (Text.of "^x")).bind fun q => (Pattern.ofText? (Text.of ".")).map fun c =>
        ((CompiledRule.mk (.extract p 1) [.ignore q, .extract c 0]).apply
          (Text.of "<ab><><x1>ab<c>") 0).value) = some [['a'], ['b'], ['c']] := by decide +kernel
  obtain ⟨p, hp, hkeys⟩ := Option.bind_eq_some_iff.mp hkeys
  obtain ⟨q, hq, hkeys⟩ := Option.bind_eq_some_iff.mp hkeys
  obtain ⟨c, hc, hkeys⟩ := Option.map_eq_some_iff.mp hkeys
  have hsteps : ∀ s ∈ (CompiledRule.mk (.extract p 1) [.ignore q, .extract c 0]).steps,
      s.Selects := by
    rintro s (_ | ⟨_, _ | ⟨_, _ | ⟨_, ⟨⟩⟩⟩⟩)
    · exact ⟨_, hp⟩
    · exact ⟨_, hq⟩
    · exact ⟨_, hc⟩
  exact ⟨p, q, c, hsteps, hkeys, apply_selects hsteps (Text.of "<ab><><x1>ab<c>") 0⟩

end CompiledRule

end WordingAudit
