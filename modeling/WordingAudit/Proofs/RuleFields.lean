import WordingAudit.Proofs.Json.Records
import WordingAudit.Rule.Encode

/-!
The fields of a rule in JSON: their names, what is read for each of them, and that it does not
matter in which order they are read. The type of a rule, which decides what fields it has, may come
after them.
-/

namespace WordingAudit

/-- The names that the fields of a kind of step can have, in order. -/
def StepKind.names : StepKind → List (List Text)
  | extract =>
    [[Text.of "pattern", Text.of "regex"], [Text.of "captureIndex", Text.of "position"]]
  | replace => [[Text.of "pattern", Text.of "regex"], [Text.of "replacement", Text.of "by"]]
  | ignore => [[Text.of "pattern", Text.of "regex"]]

namespace Rule

/-- The name of the field for the steps that follow. -/
def nextNames : List Text := [Text.of "next"]

variable {readNext : Document → Decoded Rule} {kind : StepKind} {nesting : Nat}

theorem fields_spellings (readNext : Document → Decoded Rule) (kind : StepKind) :
    (fields readNext kind).map (·.spellings) = kind.names ++ [nextNames] := by
  cases kind <;> rfl

theorem fields_head (readNext : Document → Decoded Rule) (kind : StepKind) :
    ∀ f ∈ fields readNext kind, f.spellings.head? = some f.name := by
  cases kind <;> simp [fields]

theorem fields_names_nodup (readNext : Document → Decoded Rule) (kind : StepKind) :
    ((fields readNext kind).map (·.name)).Nodup := by
  cases kind <;> simp [fields, Text.of]

theorem names_disjoint (kind : StepKind) :
    (kind.names ++ [nextNames]).Pairwise List.Disjoint := by
  cases kind <;> simp [StepKind.names, nextNames, Text.of]

theorem fields_disjoint (readNext : Document → Decoded Rule) (kind : StepKind) :
    (fields readNext kind).Pairwise fun f g => List.Disjoint f.spellings g.spellings := by
  have h := names_disjoint kind
  rw [← fields_spellings readNext kind] at h
  exact List.pairwise_map.mp h

theorem typeKey_not_mem (kind : StepKind) :
    ∀ names ∈ kind.names ++ [nextNames], typeKey ∉ names := by
  cases kind <;> simp [StepKind.names, nextNames, typeKey, Text.of]

theorem fields_length (readNext : Document → Decoded Rule) (kind : StepKind) :
    (fields readNext kind).length = kind.names.length + 1 := by
  cases kind <;> rfl

theorem eq_of_spellings {f g : Field Draft} (hf : f ∈ fields readNext kind)
    (hg : g ∈ fields readNext kind) (h : f.spellings = g.spellings) : f = g := by
  have hname := List.mem_of_mem_head? (fields_head readNext kind f hf)
  have hfound := Record.fieldOf?_of_mem (fields_disjoint readNext kind) hf hname
  rw [Record.fieldOf?_of_mem (fields_disjoint readNext kind) hg (h ▸ hname)] at hfound
  exact (Option.some.inj hfound).symm

/-! ### What fields take -/

/-- A field of a rule with the value that is read for it. -/
inductive Entry
  | pattern (p : Text)
  | group (g : Option Nat)
  | replacement (t : Option Text)
  | next (r : Option Rule)

namespace Entry

def name : Entry → Text
  | pattern _ => Text.of "pattern"
  | group _ => Text.of "captureIndex"
  | replacement _ => Text.of "replacement"
  | next _ => Text.of "next"

def enter (draft : Draft) : Entry → Draft
  | pattern p => { draft with pattern := some p }
  | group g => { draft with group := g }
  | replacement t => { draft with replacement := t }
  | next r => { draft with next := r }

/-- Entries for different fields do not interfere. -/
theorem enter_comm {a b : Entry} (h : a.name ≠ b.name) (draft : Draft) :
    b.enter (a.enter draft) = a.enter (b.enter draft) := by
  cases a with
  | pattern => cases b with
    | pattern => exact absurd rfl h
    | _ => rfl
  | group => cases b with
    | group => exact absurd rfl h
    | _ => rfl
  | replacement => cases b with
    | replacement => exact absurd rfl h
    | _ => rfl
  | next => cases b with
    | next => exact absurd rfl h
    | _ => rfl

end Entry

/-- What an entry is read from. -/
inductive Entry.ReadFrom (readNext : Document → Decoded Rule) (d : Document) : Entry → Prop
  | pattern {p : Text} (h : d.text (Text.of "a string") = .ok p) : ReadFrom readNext d (.pattern p)
  | group {g : Option Nat} (h : d.optional (Document.natural (Text.of "usize")) = .ok g) :
      ReadFrom readNext d (.group g)
  | replacement {t : Option Text} (h : d.optional (Document.text (Text.of "a string")) = .ok t) :
      ReadFrom readNext d (.replacement t)
  | next {r : Option Rule} (h : d.optional readNext = .ok r) : ReadFrom readNext d (.next r)

theorem exists_entry {β : Type} {f : Field Draft} {read : Document → Decoded β} {d : Document}
    {before after : Draft} (entry : β → Entry) (hname : ∀ b, (entry b).name = f.name)
    (hread : ∀ b, read d = .ok b → (entry b).ReadFrom readNext d)
    (hput : ∀ nesting draft, f.put nesting d draft = (read d).map fun b => (entry b).enter draft)
    (h : f.put nesting d before = .ok after) :
    ∃ e : Entry, e.name = f.name ∧ e.ReadFrom readNext d ∧
      ∀ nesting draft, f.put nesting d draft = .ok (e.enter draft) := by
  obtain ⟨b, hb, -⟩ := Result.map_eq_ok.mp ((hput nesting before).symm.trans h)
  exact ⟨entry b, hname b, hread b hb, fun nesting draft =>
    (hput nesting draft).trans (Result.map_eq_ok.mpr ⟨b, hb, rfl⟩)⟩

/-- A field that takes a value reads an entry for itself from it, and enters that. -/
theorem put_eq_ok {f : Field Draft} {d : Document} {before after : Draft}
    (hf : f ∈ fields readNext kind) (h : f.put nesting d before = .ok after) :
    ∃ e : Entry, e.name = f.name ∧ e.ReadFrom readNext d ∧
      ∀ nesting draft, f.put nesting d draft = .ok (e.enter draft) := by
  cases kind with
  | extract =>
      simp only [fields, List.mem_cons, List.not_mem_nil, or_false] at hf
      rcases hf with rfl | rfl | rfl
      · exact exists_entry .pattern (fun _ => rfl) (fun _ => .pattern) (fun _ _ => rfl) h
      · exact exists_entry .group (fun _ => rfl) (fun _ => .group) (fun _ _ => rfl) h
      · exact exists_entry .next (fun _ => rfl) (fun _ => .next) (fun _ _ => rfl) h
  | replace =>
      simp only [fields, List.mem_cons, List.not_mem_nil, or_false] at hf
      rcases hf with rfl | rfl | rfl
      · exact exists_entry .pattern (fun _ => rfl) (fun _ => .pattern) (fun _ _ => rfl) h
      · exact exists_entry .replacement (fun _ => rfl) (fun _ => .replacement) (fun _ _ => rfl) h
      · exact exists_entry .next (fun _ => rfl) (fun _ => .next) (fun _ _ => rfl) h
  | ignore =>
      simp only [fields, List.mem_cons, List.not_mem_nil, or_false] at hf
      rcases hf with rfl | rfl
      · exact exists_entry .pattern (fun _ => rfl) (fun _ => .pattern) (fun _ _ => rfl) h
      · exact exists_entry .next (fun _ => rfl) (fun _ => .next) (fun _ _ => rfl) h

/-- The order in which fields with values are set does not matter. -/
theorem assign_of_perm {list list' : List (Field Draft × Json)} {draft final : Draft}
    (h : list.Perm list') (hfields : ∀ s ∈ list, s.1 ∈ fields readNext kind)
    (hnodup : (list.map fun s => s.1.name).Nodup)
    (hassign : Record.assign nesting draft list = .ok final) :
    Record.assign nesting draft list' = .ok final := by
  have hentry : ∀ s ∈ list, ∃ a : Entry, a.name = s.1.name ∧
      ∀ draft, Record.set nesting draft s = .ok (a.enter draft) := by
    intro s hs
    obtain ⟨before, after, hset⟩ := Record.exists_set_of_assign hassign s hs
    obtain ⟨a, hname, -, hput⟩ := put_eq_ok (hfields s hs) hset
    exact ⟨a, hname, hput nesting⟩
  rw [← hassign]
  refine (Record.assign_perm h hnodup fun s hs t ht hne state => ?_).symm
  obtain ⟨a, haname, ha⟩ := hentry s hs
  obtain ⟨b, hbname, hb⟩ := hentry t ht
  rw [ha, hb]
  change Record.set nesting (a.enter state) t = Record.set nesting (b.enter state) s
  rw [hb, ha, Entry.enter_comm (haname ▸ hbname ▸ hne)]

theorem exists_next (readNext : Document → Decoded Rule) (kind : StepKind) :
    ∃ f ∈ fields readNext kind, f.spellings = nextNames ∧ ∀ nesting draft v,
      Record.set nesting draft (f, v) =
        ((Document.ofJson v).optional readNext).map fun r => { draft with next := r } := by
  have hne : fields readNext kind ≠ [] := by cases kind <;> exact List.cons_ne_nil _ _
  refine ⟨(fields readNext kind).getLast hne, List.getLast_mem hne, ?_, fun nesting draft v => ?_⟩
  · cases kind <;> rfl
  · cases kind <;> rfl

/-! ### The type and the other members -/

theorem decode_kind (inner : Bool) (kind : StepKind) :
    StepKind.decode inner (.str kind.name) = .ok kind := by
  cases kind <;> rfl

theorem kind_name_injective {kind other : StepKind} (h : kind.name = other.name) :
    kind = other := by
  have hother := decode_kind false other
  rw [← h, decode_kind] at hother
  exact Except.ok.inj hother

/-- The type, given once, is found wherever it stands, and the other members are left in their
order. -/
theorem splitMembers_eq {inner : Bool} {members : List (Text × Json)} {before : Option StepKind}
    (hfits : ∀ m ∈ members, m.2.Fits nesting)
    (htype : (before.map fun kind => Json.str kind.name).toList ++
      Json.valuesOf members [typeKey] = [.str kind.name]) :
    splitMembers inner nesting before (Document.ofMembers members) =
      .ok (some kind, Document.ofMembers (members.filter fun m => m.1 ≠ typeKey)) := by
  induction members generalizing before with
  | nil =>
      cases before with
      | none => cases htype
      | some other =>
          have hname : other.name = kind.name := Json.str.inj (List.cons.inj htype).1
          rw [kind_name_injective hname]
          rfl
  | cons m rest ih =>
      obtain ⟨key, v⟩ := m
      obtain ⟨hfirst, hrest⟩ := List.forall_mem_cons.mp hfits
      rw [Document.ofMembers, splitMembers]
      by_cases hkey : key = typeKey
      · rw [Json.valuesOf_cons_of_mem (List.mem_singleton.mpr hkey)] at htype
        cases before with
        | some other => cases (List.cons.inj htype).2
        | none =>
            obtain ⟨rfl, hnone⟩ := List.cons.inj htype
            have hothers := @ih (some kind) hrest
              (show Json.str kind.name :: Json.valuesOf rest [typeKey] = _ by rw [hnone])
            rw [if_pos hkey, if_neg (by simp), Document.ofJson, decode_kind,
              List.filter_cons_of_neg (by simpa using hkey)]
            exact hothers
      · rw [Json.valuesOf_cons_of_not_mem (by simpa using hkey)] at htype
        have hvalue : ¬ ((Document.ofJson v).value? nesting).isNone = true := by
          rw [hfirst]
          exact Bool.false_ne_true
        rw [if_neg hkey, if_neg hvalue, ih hrest htype,
          List.filter_cons_of_pos (by simpa using hkey)]
        rfl

theorem decodeWithin_obj {inner : Bool} {members : List (Text × Json)}
    (hfits : ∀ m ∈ members, m.2.Fits nesting)
    (htype : Json.valuesOf members [typeKey] = [.str kind.name]) :
    decodeWithin inner (nesting + 1) (.ofJson (.obj members)) =
      (record (decodeWithin true nesting) kind).ofMembers nesting
        (Document.ofMembers (members.filter fun m => m.1 ≠ typeKey)) true := by
  have hsplit : splitMembers inner nesting none (Document.ofMembers members) = _ :=
    splitMembers_eq hfits htype
  rw [Document.ofJson, decodeWithin, hsplit]
  rfl

theorem decodeWithin_arr {inner : Bool} {items : List Json} (hfits : ∀ v ∈ items, v.Fits nesting) :
    decodeWithin inner (nesting + 1) (.ofJson (.arr (.str kind.name :: items))) =
      (record (decodeWithin true nesting) kind).ofItems nesting (Document.ofItems items) true := by
  have hall : ((Document.ofItems items).any fun d => (d.value? nesting).isNone) = false := by
    rw [Document.ofItems_eq, List.any_map, List.any_eq_false]
    intro v hv
    have hvalue : (Document.ofJson v).value? nesting = some v := hfits v hv
    simp [hvalue]
  rw [Document.ofJson, Document.ofItems, Document.ofJson, decodeWithin]
  simp only [decode_kind, hall]
  rfl

/-- The type is for no field. -/
theorem settings_others (readNext : Document → Decoded Rule) (kind : StepKind)
    (members : List (Text × Json)) :
    Record.settings (fields readNext kind) (members.filter fun m => m.1 ≠ typeKey) =
      Record.settings (fields readNext kind) members := by
  have htype : Record.fieldOf? (fields readNext kind) typeKey = none := by
    refine Record.fieldOf?_eq_none.mpr fun f hf => typeKey_not_mem kind _ ?_
    rw [← fields_spellings readNext kind]
    exact List.mem_map_of_mem hf
  rw [Record.settings, List.filterMap_filter]
  refine List.filterMap_congr fun m _ => ?_
  by_cases hm : m.1 = typeKey
  · simp [hm, htype]
  · simp [hm]

end Rule

end WordingAudit
