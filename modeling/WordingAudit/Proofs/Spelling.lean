import WordingAudit.Proofs.RuleFields

/-!
All the ways to write a rule in JSON. Every step of a rule is an object, in any order, or an array,
and each of its fields has one or two names; these choices are independent of one another. Whatever
they are, the rule that is read is the same.
-/

namespace WordingAudit

namespace Document

theorem natural_natCast (wanted : Text) (n : Nat) : natural wanted (.int n) = .ok n := by
  have hnot : ¬ (n : Int) < 0 := by omega
  rw [natural, if_neg hnot, Int.toNat_natCast]

theorem optional_of_ne_null {β : Type} {v : Json} (h : v ≠ .null) (read : Document → Decoded β) :
    (ofJson v).optional read = (read (ofJson v)).map some := by
  cases v with
  | null => exact absurd rfl h
  | _ => rfl

end Document

/-- What kind of step this is. -/
def Step.kind : Step → StepKind
  | extract _ _ => .extract
  | replace _ _ => .replace
  | ignore _ => .ignore

/-- The values of a step's own fields, in order. -/
def Step.values : Step → List (Option Json)
  | extract p group => [some (.str p), group.map fun n : Nat => .int n]
  | replace p replacement => [some (.str p), replacement.map .str]
  | ignore p => [some (.str p)]

namespace Rule

/-- How a value is written, or the lack of one: then the field is left out, or null. -/
def Writes (value written : Option Json) : Prop :=
  written = value ∨ value = none ∧ written = some .null

/-- A JSON value is a step; what is written for the steps that follow satisfies `following`. -/
inductive WrittenStep (s : Step) (following : Option Json → Prop) : Json → Prop
  /-- An object has the type once and each field under at most one of its names. The order of its
  members does not matter, nor do members with other keys. -/
  | object {members : List (Text × Json)} {values : List (Option Json)} {next : Option Json}
      (type : Json.valuesOf members [typeKey] = [.str s.kind.name])
      (own : List.Forall₂ Writes s.values values) (after : following next)
      (fields : List.Forall₂ (fun names v => Json.valuesOf members names = Option.toList v)
        s.kind.names values)
      (last : Json.valuesOf members nextNames = next.toList) :
      WrittenStep s following (.obj members)
  /-- An array has the type and the fields in order; those that are left out must come last. -/
  | array {items : List Json} {missing : Nat} {values : List (Option Json)} {next : Option Json}
      (own : List.Forall₂ Writes s.values values) (after : following next)
      (fields : items.map some ++ List.replicate missing none = values ++ [next]) :
      WrittenStep s following (.arr (.str s.kind.name :: items))

/-- What is written for the steps that follow. -/
def WrittenNext : List Step → Option Json → Prop
  | [], next => Writes none next
  | s :: rest, next => ∃ v, next = some v ∧ WrittenStep s (WrittenNext rest) v

/-- A JSON value is a rule, in one of its spellings. -/
def Spelled (r : Rule) (v : Json) : Prop := WrittenStep r.first (WrittenNext r.further) v

/-! ### Reading what is written -/

variable {readNext : Document → Decoded Rule} {kind : StepKind} {nesting : Nat}

theorem readAs_of_writes {β : Type} {read : Document → Decoded β} {value : Option β}
    {v : Option Json} (write : β → Json) (h : Writes (value.map write) v)
    (hread : ∀ b, (Document.ofJson (write b)).optional read = .ok (some b)) :
    Record.ReadAs read v value := by
  rcases h with rfl | ⟨hnone, rfl⟩
  · cases value with
    | none => rfl
    | some b => exact hread b
  · obtain rfl := Option.map_eq_none_iff.mp hnone
    rfl

theorem readAs_group {g : Option Nat} {v : Option Json}
    (h : Writes (g.map fun n : Nat => .int n) v) :
    Record.ReadAs (Document.natural (Text.of "usize")) v g :=
  readAs_of_writes (fun n : Nat => .int n) h fun n =>
    congrArg (Except.map some) (Document.natural_natCast (Text.of "usize") n)

theorem readAs_text {t : Option Text} {v : Option Json} (h : Writes (t.map .str) v) :
    Record.ReadAs (Document.text (Text.of "a string")) v t :=
  readAs_of_writes .str h fun _ => rfl

theorem eq_of_writes_some {v : Json} {written : Option Json} (h : Writes (some v) written) :
    written = some v := by
  rcases h with h | ⟨h, -⟩
  · exact h
  · cases h

theorem assign_step (nesting : Nat) (s : Step) {values : List (Option Json)} {next : Option Json}
    {following : Option Rule} (own : List.Forall₂ Writes s.values values)
    (after : Record.ReadAs readNext next following) :
    ∃ draft, Record.assign nesting {}
        (Record.written (fields readNext s.kind) (values ++ [next])) = .ok draft ∧
      ofDraft s.kind draft = some ⟨s, (following.map steps).getD []⟩ := by
  cases s with
  | extract p g =>
      obtain ⟨written, _, hpattern, hrest, rfl⟩ := List.forall₂_cons_left_iff.mp own
      obtain ⟨group, _, hgroup, hnil, rfl⟩ := List.forall₂_cons_left_iff.mp hrest
      obtain rfl := List.forall₂_nil_left_iff.mp hnil
      obtain rfl := eq_of_writes_some hpattern
      refine ⟨{ pattern := some p, group := g, next := following }, ?_, rfl⟩
      refine Record.assign_written rfl ?_
      refine Record.assign_written (Record.setIf_optional
        (fun g => { pattern := some p, group := g : Draft }) (readAs_group hgroup) fun _ => rfl) ?_
      exact Record.assign_written (Record.setIf_optional
        (fun r => { pattern := some p, group := g, next := r : Draft }) after fun _ => rfl) rfl
  | replace p t =>
      obtain ⟨written, _, hpattern, hrest, rfl⟩ := List.forall₂_cons_left_iff.mp own
      obtain ⟨text, _, htext, hnil, rfl⟩ := List.forall₂_cons_left_iff.mp hrest
      obtain rfl := List.forall₂_nil_left_iff.mp hnil
      obtain rfl := eq_of_writes_some hpattern
      refine ⟨{ pattern := some p, replacement := t, next := following }, ?_, rfl⟩
      refine Record.assign_written rfl ?_
      refine Record.assign_written (Record.setIf_optional
        (fun t => { pattern := some p, replacement := t : Draft }) (readAs_text htext)
        fun _ => rfl) ?_
      exact Record.assign_written (Record.setIf_optional
        (fun r => { pattern := some p, replacement := t, next := r : Draft }) after
        fun _ => rfl) rfl
  | ignore p =>
      obtain ⟨written, _, hpattern, hnil, rfl⟩ := List.forall₂_cons_left_iff.mp own
      obtain rfl := List.forall₂_nil_left_iff.mp hnil
      obtain rfl := eq_of_writes_some hpattern
      refine ⟨{ pattern := some p, next := following }, ?_, rfl⟩
      refine Record.assign_written rfl ?_
      exact Record.assign_written (Record.setIf_optional
        (fun r => { pattern := some p, next := r : Draft }) after fun _ => rfl) rfl

theorem values_length (s : Step) : s.values.length = s.kind.names.length := by
  cases s <;> rfl

/-- The members that are for fields, in any order, are the fields that have a value. -/
theorem settings_perm_written {members : List (Text × Json)} {values : List (Option Json)}
    {next : Option Json} (readNext : Document → Decoded Rule)
    (hfields : List.Forall₂ (fun names v => Json.valuesOf members names = Option.toList v)
      kind.names values)
    (hlast : Json.valuesOf members nextNames = next.toList) :
    (Record.settings (fields readNext kind) members).Perm
      (Record.written (fields readNext kind) (values ++ [next])) := by
  have hall : List.Forall₂ (fun names v => Json.valuesOf members names = Option.toList v)
      (kind.names ++ [nextNames]) (values ++ [next]) :=
    List.rel_append hfields (.cons hlast .nil)
  rw [← fields_spellings readNext kind] at hall
  exact Record.settings_perm (fields_disjoint readNext kind) (List.forall₂_map_left_iff.mp hall)

/-- A step is read from each of its spellings, with the rule that is read from what is written for
the steps that follow. -/
theorem decodeWithin_written {inner : Bool} {s : Step} {v : Json} {after : Option Json → Prop}
    {following : Option Rule} (h : WrittenStep s after v) (hfits : v.Fits nesting)
    (hafter : ∀ depth next, after next → (∀ w, next = some w → w.Fits depth) →
      Record.ReadAs (decodeWithin true depth) next following) :
    decodeWithin inner nesting (.ofJson v) = .ok ⟨s, (following.map steps).getD []⟩ := by
  cases h with
  | @object members values next htype hown hnext hfields hlast =>
      obtain ⟨depth, rfl, hmembers⟩ := hfits.members
      have hread := hafter depth next hnext fun w hw => by
        have hmem : w ∈ Json.valuesOf members nextNames := by simp [hlast, hw]
        obtain ⟨m, hm, rfl⟩ := List.mem_map.mp hmem
        exact hmembers m (List.mem_filter.mp hm).1
      obtain ⟨draft, hassign, hdraft⟩ := assign_step depth s hown hread
      have hperm := settings_perm_written (decodeWithin true depth) hfields hlast
      have hnodup := (Record.written_names_sublist (values ++ [next])).nodup
        (fields_names_nodup (decodeWithin true depth) s.kind)
      rw [decodeWithin_obj hmembers htype]
      rw [← settings_others] at hperm
      refine Record.ofMembers_of_assign ((hperm.map _).nodup_iff.mpr hnodup) ?_ hdraft
      exact assign_of_perm hperm.symm
        (fun s hs => (Record.mem_settings (hperm.mem_iff.mpr hs)).1) hnodup hassign
  | @array items missing values next hown hnext hitems =>
      obtain ⟨depth, rfl, hall⟩ := hfits.items
      obtain ⟨-, hall⟩ := List.forall_mem_cons.mp hall
      have hread := hafter depth next hnext fun w hw => by
        have hmem : some w ∈ items.map some ++ List.replicate missing none := by simp [hitems, hw]
        exact hall w (by simpa using hmem)
      obtain ⟨draft, hassign, hdraft⟩ := assign_step depth s hown hread
      rw [← hitems, Record.written_items] at hassign
      rw [decodeWithin_arr hall]
      refine Record.ofItems_of_assign ?_ hassign hdraft
      have hlength := congrArg List.length hitems
      rw [List.length_append, List.length_append, List.length_map, List.length_singleton,
        ← hown.length_eq, values_length] at hlength
      have hfields := fields_length (decodeWithin true depth) s.kind
      change items.length ≤ (fields (decodeWithin true depth) s.kind).length
      omega

theorem ne_null_of_writtenStep {s : Step} {v : Json} {after : Option Json → Prop}
    (h : WrittenStep s after v) : v ≠ .null := by
  cases h <;> nofun

/-- Every spelling of a rule is read as that rule. -/
theorem decodeWithin_spelled {inner : Bool} {r : Rule} {v : Json} (h : r.Spelled v)
    (hfits : v.Fits nesting) : decodeWithin inner nesting (.ofJson v) = .ok r := by
  obtain ⟨s, rest⟩ := r
  induction rest generalizing inner s v nesting with
  | nil =>
      have hnone : ∀ depth next, WrittenNext [] next → (∀ w, next = some w → w.Fits depth) →
          Record.ReadAs (decodeWithin true depth) next none := by
        intro depth next hnext _
        rcases hnext with rfl | ⟨-, rfl⟩
        · rfl
        · rfl
      exact decodeWithin_written h hfits hnone
  | cons t rest ih =>
      have hrest : ∀ depth next, WrittenNext (t :: rest) next →
          (∀ w, next = some w → w.Fits depth) →
          Record.ReadAs (decodeWithin true depth) next (some ⟨t, rest⟩) := by
        rintro depth next ⟨w, rfl, hw⟩ hnextFits
        refine (Document.optional_of_ne_null (ne_null_of_writtenStep hw) _).trans ?_
        exact Result.map_eq_ok.mpr ⟨⟨t, rest⟩, ih (hnextFits w rfl) t hw, rfl⟩
      exact decodeWithin_written h hfits hrest

end Rule

end WordingAudit
