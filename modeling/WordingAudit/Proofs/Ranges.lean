import WordingAudit.Config.Decode
import WordingAudit.Proofs.RuleFields

/-!
What a document can hold when it is read as settings: every number has at most 64 bits, and a rule
has no more steps than objects may stand in one another.
-/

namespace WordingAudit

theorem Result.exists_of_mem_mapM {α β ε : Type} {f : α → Except ε β} {l : List α} {r : List β}
    (h : l.mapM f = .ok r) : ∀ b ∈ r, ∃ a ∈ l, f a = .ok b := by
  induction l generalizing r with
  | nil =>
      cases h
      exact nofun
  | cons a rest ih =>
      obtain ⟨b, bs, hb, hbs, rfl⟩ := mapM_cons_eq_ok.mp h
      refine List.forall_mem_cons.mpr ⟨⟨a, List.mem_cons_self, hb⟩, fun c hc => ?_⟩
      obtain ⟨a', ha', hc'⟩ := ih hbs c hc
      exact ⟨a', List.mem_cons_of_mem a ha', hc'⟩

/-- A text is accepted if what stands in it is, and if nothing follows. -/
theorem decodeText_eq_ok {α : Type} {read : Nat → Document → Decoded α} {t : Text} {a : α} :
    decodeText read t = .ok a ↔
      read Document.maxNesting (Document.read t).1 = .ok a ∧ (Document.read t).2 = true := by
  have hbind : decodeText read t = (read Document.maxNesting (Document.read t).1).bind fun a =>
      if (Document.read t).2 then .ok a else .error .malformed := rfl
  rw [hbind, Result.bind_eq_ok]
  cases (Document.read t).2 <;> simp

namespace Document

variable {α : Type} {d : Document}

theorem natural_le {wanted : Text} {n : Nat} (hd : d.Sized) (h : d.natural wanted = .ok n) :
    n ≤ maxUnsigned := by
  cases hd with
  | int i hi =>
      rw [natural] at h
      split at h
      · cases h
      · exact Except.ok.inj h ▸ hi
  | _ => cases h

theorem read_of_optional {read : Document → Decoded α} {a : α}
    (h : d.optional read = .ok (some a)) : read d = .ok a := by
  cases d with
  | null => cases h
  | _ =>
      obtain ⟨b, hb, hsame⟩ := Result.map_eq_ok.mp h
      rw [hb, Option.some.inj hsame]

theorem exists_item_of_list {read : Nat → Document → Decoded α} {nesting : Nat} {values : List α}
    (hd : d.Sized) (h : d.list read nesting = .ok values) :
    ∃ inner, nesting = inner + 1 ∧
      ∀ a ∈ values, ∃ item : Document, item.Sized ∧ read inner item = .ok a := by
  cases hd with
  | arr complete hitems =>
      cases nesting with
      | zero => cases h
      | succ inner =>
          obtain ⟨found, hfound, h⟩ := Result.bind_eq_ok.mp h
          split at h
          · obtain rfl := Except.ok.inj h
            refine ⟨inner, rfl, fun a ha => ?_⟩
            obtain ⟨item, hitem, hread⟩ := Result.exists_of_mem_mapM hfound a ha
            exact ⟨item, hitems item hitem, hread⟩
          · cases h
  | _ => cases nesting <;> cases h

end Document

/-- A rule has at most so many steps, and no group with a number that is too large. -/
structure Rule.InRange (depth : Nat) (r : Rule) : Prop where
  length : r.steps.length ≤ depth
  groups : ∀ p n, Step.extract p (some n) ∈ r.steps → n ≤ Document.maxUnsigned

structure ProjectSettings.InRange (depth : Nat) (s : ProjectSettings) : Prop where
  rules : ∀ r ∈ s.rules, r.InRange depth
  groups : ∀ m ∈ s.legacyMatches, ∀ n, m.group = some n → n ≤ Document.maxUnsigned

structure Config.InRange (depth : Nat) (c : Config) : Prop where
  project : ∀ s, c.project = some s → s.InRange depth
  timeout : c.fetchTimeout ≤ Document.maxUnsigned

/-! ### Rules -/

namespace Rule

variable {inner : Bool} {nesting : Nat} {d : Document} {r : Rule}

theorem splitMembers_subset {before found : Option StepKind}
    {members others : List (Option Text × Document)}
    (h : splitMembers inner nesting before members = .ok (found, others)) : others ⊆ members := by
  induction members generalizing before others with
  | nil =>
      cases h
      exact List.nil_subset _
  | cons m rest ih =>
      obtain ⟨key, d⟩ := m
      cases key with
      | none => cases h
      | some key =>
          rw [splitMembers] at h
          split at h
          · split at h
            · cases h
            · obtain ⟨kind, -, h⟩ := Result.bind_eq_ok.mp h
              exact List.subset_cons_of_subset _ (ih h)
          · split at h
            · cases h
            · obtain ⟨⟨kind, rest'⟩, hrest, h⟩ := Result.bind_eq_ok.mp h
              cases h
              exact List.cons_subset_cons _ (ih hrest)

/-- What is known of a rule of which some fields have been read. -/
structure Draft.InRange (depth : Nat) (draft : Draft) : Prop where
  group : ∀ n, draft.group = some n → n ≤ Document.maxUnsigned
  next : ∀ r, draft.next = some r → r.InRange depth

theorem fields_keep {readNext : Document → Decoded Rule} {kind : StepKind} {depth : Nat}
    (hnext : ∀ d r, d.Sized → readNext d = .ok r → r.InRange depth) :
    Record.Keeps (fields readNext kind) nesting (Draft.InRange depth) := by
  intro f hf d hd before after hbefore h
  obtain ⟨e, -, hread, hput⟩ := put_eq_ok hf h
  obtain rfl := Except.ok.inj ((hput nesting before).symm.trans h)
  cases hread with
  | pattern => exact ⟨hbefore.group, hbefore.next⟩
  | group hg =>
      refine ⟨?_, hbefore.next⟩
      rintro n rfl
      exact Document.natural_le hd (Document.read_of_optional hg)
  | replacement => exact ⟨hbefore.group, hbefore.next⟩
  | next hr =>
      refine ⟨hbefore.group, ?_⟩
      rintro r rfl
      exact hnext d r hd (Document.read_of_optional hr)

theorem inRange_cons {s : Step} {rest : List Step} {depth : Nat}
    (hfirst : ∀ p n, Step.extract p (some n) = s → n ≤ Document.maxUnsigned)
    (hlength : rest.length ≤ depth)
    (hgroups : ∀ p n, Step.extract p (some n) ∈ rest → n ≤ Document.maxUnsigned) :
    InRange (depth + 1) ⟨s, rest⟩ := by
  refine ⟨Nat.succ_le_succ hlength, fun p n hmem => ?_⟩
  rcases List.mem_cons.mp hmem with heq | hmem
  · exact hfirst p n heq
  · exact hgroups p n hmem

theorem inRange_of_draft {kind : StepKind} {depth : Nat} {draft : Draft}
    (hdraft : draft.InRange depth) (h : ofDraft kind draft = some r) : r.InRange (depth + 1) := by
  obtain ⟨hlength, hgroups⟩ : ((draft.next.map steps).getD []).length ≤ depth ∧ ∀ p n,
      Step.extract p (some n) ∈ (draft.next.map steps).getD [] → n ≤ Document.maxUnsigned := by
    cases hnext : draft.next with
    | none => exact ⟨Nat.zero_le depth, fun _ _ hmem => absurd hmem List.not_mem_nil⟩
    | some next => exact ⟨(hdraft.next next hnext).length, (hdraft.next next hnext).groups⟩
  obtain ⟨p, -, rfl⟩ := Option.map_eq_some_iff.mp h
  cases kind with
  | extract =>
      refine inRange_cons (fun _ n heq => ?_) hlength hgroups
      exact hdraft.group n (Step.extract.inj heq).2.symm
  | replace => exact inRange_cons nofun hlength hgroups
  | ignore => exact inRange_cons nofun hlength hgroups

/-- The rule that goes on stands inside this one, so it has a step less. -/
theorem inRange_of_decodeWithin (hd : d.Sized) (h : decodeWithin inner nesting d = .ok r) :
    r.InRange nesting := by
  induction nesting generalizing inner d r with
  | zero => cases hd <;> cases h
  | succ nesting ih =>
      have hkeeps : ∀ kind, Record.Keeps (record (decodeWithin true nesting) kind).fields nesting
          (Draft.InRange nesting) := fun kind => fields_keep fun d r hd hr => ih hd hr
      have hinitial : Draft.InRange nesting {} := ⟨nofun, nofun⟩
      cases hd with
      | @arr items complete hitems =>
          cases items with
          | nil => cases complete <;> cases h
          | cons first rest =>
              obtain ⟨kind, -, h⟩ := Result.bind_eq_ok.mp h
              split at h
              · cases h
              · obtain ⟨draft, hdraft, hfinish⟩ := Record.ofItems_keeps (hkeeps kind) hinitial
                  (List.forall_mem_cons.mp hitems).2 h
                exact inRange_of_draft hdraft hfinish
      | obj complete hmembers =>
          obtain ⟨⟨found, others⟩, hsplit, h⟩ := Result.bind_eq_ok.mp h
          have hothers : ∀ m ∈ others, m.2.Sized :=
            fun m hm => hmembers m (splitMembers_subset hsplit hm)
          cases complete with
          | false => cases h
          | true => cases found with
            | none => cases h
            | some kind =>
                obtain ⟨draft, hdraft, hfinish⟩ :=
                  Record.ofMembers_keeps (hkeeps kind) hinitial hothers h
                exact inRange_of_draft hdraft hfinish
      | _ => cases h

end Rule

/-! ### Settings -/

namespace LegacyMatch

theorem group_le_of_decode {nesting : Nat} {d : Document} {m : LegacyMatch} (hd : d.Sized)
    (h : record.decode nesting d = .ok m) : ∀ n, m.group = some n → n ≤ Document.maxUnsigned := by
  have hkeeps : ∀ inner, nesting = inner + 1 → Record.Keeps record.fields inner
      fun draft : Draft => ∀ n, draft.group = some n → n ≤ Document.maxUnsigned := by
    intro inner _ f hf d hd before after hbefore h
    simp only [record, List.mem_cons, List.not_mem_nil, or_false] at hf
    rcases hf with rfl | rfl
    · obtain ⟨p, -, rfl⟩ := Result.map_eq_ok.mp h
      exact hbefore
    · obtain ⟨g, hg, h⟩ := Result.bind_eq_ok.mp h
      cases h
      rintro n rfl
      exact Document.natural_le hd (Document.read_of_optional hg)
  obtain ⟨draft, hdraft, hfinish⟩ := Record.decode_keeps hkeeps nofun hd h
  obtain ⟨p, -, rfl⟩ := Option.map_eq_some_iff.mp hfinish
  exact hdraft

end LegacyMatch

namespace ProjectSettings

theorem inRange_of_decode {nesting depth : Nat} {d : Document} {s : ProjectSettings} (hd : d.Sized)
    (hdepth : nesting ≤ depth + 2) (h : record.decode nesting d = .ok s) : s.InRange depth := by
  have hkeeps : ∀ inner, nesting = inner + 1 →
      Record.Keeps record.fields inner (InRange depth) := by
    rintro inner rfl f hf d hd before after hbefore h
    simp only [record, List.mem_cons, List.not_mem_nil, or_false] at hf
    rcases hf with rfl | rfl | rfl | rfl
    · obtain ⟨_, -, h⟩ := Result.bind_eq_ok.mp h
      cases h
      exact ⟨hbefore.rules, hbefore.groups⟩
    · obtain ⟨rules, hrules, h⟩ := Result.bind_eq_ok.mp h
      cases h
      obtain ⟨level, rfl, hitems⟩ := Document.exists_item_of_list hd hrules
      refine ⟨fun r hr => ?_, hbefore.groups⟩
      obtain ⟨item, hitem, hread⟩ := hitems r hr
      have hrange := Rule.inRange_of_decodeWithin hitem hread
      exact ⟨Nat.le_trans hrange.length (by omega), hrange.groups⟩
    · obtain ⟨list, hlist, h⟩ := Result.bind_eq_ok.mp h
      cases h
      obtain ⟨level, -, hitems⟩ := Document.exists_item_of_list hd hlist
      refine ⟨hbefore.rules, fun m hm => ?_⟩
      obtain ⟨item, hitem, hread⟩ := hitems m hm
      exact LegacyMatch.group_le_of_decode hitem hread
    · obtain ⟨_, -, h⟩ := Result.bind_eq_ok.mp h
      cases h
      exact ⟨hbefore.rules, hbefore.groups⟩
  obtain ⟨final, hfinal, hfinish⟩ := Record.decode_keeps hkeeps ⟨nofun, nofun⟩ hd h
  exact Option.some.inj hfinish ▸ hfinal

end ProjectSettings

namespace Config

theorem inRange_of_decode {depth : Nat} {d : Document} {c : Config} (hd : d.Sized)
    (h : record.decode (depth + 3) d = .ok c) : c.InRange depth := by
  have hkeeps : ∀ inner, depth + 3 = inner + 1 →
      Record.Keeps record.fields inner (InRange depth) := by
    intro inner hinner f hf d hd before after hbefore h
    have hproject := hbefore.project
    have htimeout := hbefore.timeout
    simp only [record, List.mem_cons, List.not_mem_nil, or_false] at hf
    rcases hf with rfl | rfl | rfl | rfl | rfl | rfl | rfl <;>
      obtain ⟨x, hx, h⟩ := Result.bind_eq_ok.mp h <;> cases h
    · exact ⟨hproject, htimeout⟩
    · refine ⟨?_, htimeout⟩
      rintro s rfl
      exact ProjectSettings.inRange_of_decode hd (by omega) (Document.read_of_optional hx)
    · exact ⟨hproject, htimeout⟩
    · exact ⟨hproject, htimeout⟩
    · exact ⟨hproject, htimeout⟩
    · exact ⟨hproject, htimeout⟩
    · exact ⟨hproject, Document.natural_le hd hx⟩
  have hinitial : InRange depth {} := ⟨nofun, by decide⟩
  obtain ⟨final, hfinal, hfinish⟩ := Record.decode_keeps hkeeps hinitial hd h
  exact Option.some.inj hfinish ▸ hfinal

/-- What is read from a text is in range: of the levels that are allowed, three stand around a
rule. -/
theorem inRange_of_read {t : Text} {c : Config} (h : read t = .ok c) :
    c.InRange (Document.maxNesting - 3) := by
  obtain ⟨hdecode, -⟩ := decodeText_eq_ok.mp (Result.mapError_eq_ok.mp h)
  exact inRange_of_decode (Document.sized_read t) hdecode

end Config

end WordingAudit
