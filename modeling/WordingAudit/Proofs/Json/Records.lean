import Mathlib.Data.List.Nodup
import WordingAudit.Json.Decode
import WordingAudit.Proofs.Json.Sized
import WordingAudit.Proofs.Json.Values
import WordingAudit.Proofs.Traced

/-!
Records that are read from values. The members of an object, in any order, and the items of an array
come to the same thing: a list of fields, each with the value that is put into it. When no field is
there twice and the fields do not interfere, the order of this list does not matter.
-/

namespace WordingAudit

namespace Json

/-- The values of the members with one of these keys, in the order of the members. -/
def valuesOf (members : List (Text × Json)) (keys : List Text) : List Json :=
  (members.filter fun m => keys.contains m.1).map (·.2)

variable {m : Text × Json} {members : List (Text × Json)} {keys : List Text}

theorem valuesOf_cons_of_mem (h : m.1 ∈ keys) :
    valuesOf (m :: members) keys = m.2 :: valuesOf members keys := by
  simp [valuesOf, h]

theorem valuesOf_cons_of_not_mem (h : m.1 ∉ keys) :
    valuesOf (m :: members) keys = valuesOf members keys := by
  simp [valuesOf, h]

end Json

namespace Record

variable {σ α : Type} {r : Record σ α} {fields : List (Field σ)} {nesting : Nat} {state : σ}
  {members : List (Text × Json)} {values : List (Option Json)}

/-- The field that a member is for, if the record has such a field. -/
def fieldOf? (fields : List (Field σ)) (key : Text) : Option (Field σ) :=
  fields.find? fun field => field.spellings.contains key

/-- The fields that members are for, in the order of the members, each with its value. Members that
are for no field are passed over. -/
def settings (fields : List (Field σ)) (members : List (Text × Json)) : List (Field σ × Json) :=
  members.filterMap fun m => (fieldOf? fields m.1).map fun field => (field, m.2)

/-- The fields in order, those without a value left out. -/
def written : List (Field σ) → List (Option Json) → List (Field σ × Json)
  | field :: fields, v :: values => (v.map fun v => (field, v)).toList ++ written fields values
  | _, _ => []

/-- The value of a field is put into a record under construction. -/
def set (nesting : Nat) (state : σ) (s : Field σ × Json) : Decoded σ :=
  s.1.put nesting (.ofJson s.2) state

/-- Values are put into fields, one after the other. -/
def assign (nesting : Nat) (state : σ) (list : List (Field σ × Json)) : Decoded σ :=
  list.foldlM (set nesting) state

theorem assign_cons (s : Field σ × Json) (list : List (Field σ × Json)) :
    assign nesting state (s :: list) =
      (set nesting state s).bind fun state => assign nesting state list :=
  List.foldlM_cons

theorem fieldOf?_cons_of_mem {field : Field σ} {key : Text} (h : key ∈ field.spellings) :
    fieldOf? (field :: fields) key = some field := by
  simp [fieldOf?, h]

theorem fieldOf?_cons_of_not_mem {field : Field σ} {key : Text} (h : key ∉ field.spellings) :
    fieldOf? (field :: fields) key = fieldOf? fields key := by
  simp [fieldOf?, h]

theorem fieldOf?_eq_none {key : Text} :
    fieldOf? fields key = none ↔ ∀ field ∈ fields, key ∉ field.spellings := by
  simp [fieldOf?]

theorem settings_cons_of_none {m : Text × Json} (h : fieldOf? fields m.1 = none) :
    settings fields (m :: members) = settings fields members := by
  rw [settings, List.filterMap_cons, h]
  rfl

theorem settings_cons_of_some {m : Text × Json} {field : Field σ}
    (h : fieldOf? fields m.1 = some field) :
    settings fields (m :: members) = (field, m.2) :: settings fields members := by
  rw [settings, List.filterMap_cons, h]
  rfl

theorem mem_settings {s : Field σ × Json} (h : s ∈ settings fields members) :
    s.1 ∈ fields ∧ s.2 ∈ Json.valuesOf members s.1.spellings := by
  obtain ⟨m, hm, hs⟩ := List.mem_filterMap.mp h
  obtain ⟨field, hfield, rfl⟩ := Option.map_eq_some_iff.mp hs
  have hkey := List.find?_some (p := fun field : Field σ => field.spellings.contains m.1) hfield
  exact ⟨List.mem_of_find?_eq_some hfield,
    List.mem_map.mpr ⟨m, List.mem_filter.mpr ⟨hm, hkey⟩, rfl⟩⟩

theorem fieldOf?_of_mem {field : Field σ} {key : Text}
    (hdisjoint : fields.Pairwise fun f g => List.Disjoint f.spellings g.spellings)
    (hfield : field ∈ fields) (hkey : key ∈ field.spellings) :
    fieldOf? fields key = some field := by
  induction hdisjoint with
  | nil => exact absurd hfield List.not_mem_nil
  | cons hfirst _ ih =>
      rename_i first rest
      rcases List.mem_cons.mp hfield with rfl | hrest
      · exact fieldOf?_cons_of_mem hkey
      · rw [fieldOf?_cons_of_not_mem fun hmem => hfirst field hrest hmem hkey]
        exact ih hrest

/-- All values that are there for a field are put into it. -/
theorem valuesOf_sublist {field : Field σ}
    (hdisjoint : fields.Pairwise fun f g => List.Disjoint f.spellings g.spellings)
    (hfield : field ∈ fields) :
    ((Json.valuesOf members field.spellings).map fun v => (field, v)).Sublist
      (settings fields members) := by
  induction members with
  | nil => exact List.Sublist.refl _
  | cons m rest ih =>
      by_cases hmem : m.1 ∈ field.spellings
      · rw [Json.valuesOf_cons_of_mem hmem,
          settings_cons_of_some (fieldOf?_of_mem hdisjoint hfield hmem)]
        exact ih.cons_cons _
      · rw [Json.valuesOf_cons_of_not_mem hmem]
        cases hother : fieldOf? fields m.1 with
        | none =>
            rw [settings_cons_of_none hother]
            exact ih
        | some other =>
            rw [settings_cons_of_some hother]
            exact ih.cons _

theorem written_names_sublist (values : List (Option Json)) :
    ((written fields values).map fun s => s.1.name).Sublist (fields.map (·.name)) := by
  induction fields generalizing values with
  | nil => exact List.Sublist.refl _
  | cons field fields ih =>
      cases values with
      | nil => exact List.nil_sublist _
      | cons v values =>
          cases v with
          | none => exact (ih values).cons _
          | some v => exact (ih values).cons_cons _

theorem mem_written {s : Field σ × Json} :
    s ∈ written fields values ↔ (s.1, some s.2) ∈ fields.zip values := by
  induction fields generalizing values with
  | nil => simp [written]
  | cons field fields ih =>
      cases values with
      | nil => simp [written]
      | cons v values =>
          rw [written, List.mem_append, List.zip_cons_cons, List.mem_cons, ih]
          refine or_congr_left ?_
          cases v with
          | none => simp
          | some v => simp [Prod.ext_iff]

/-! ### Members and items -/

theorem putMembers_of_none {key : Text} {d : Document} {seen : List Text}
    {rest : List (Option Text × Document)} (h : fieldOf? r.fields key = none) :
    r.putMembers nesting seen state ((some key, d) :: rest) =
      r.putMembers nesting seen state rest := by
  rw [fieldOf?] at h
  rw [putMembers, h]

theorem putMembers_of_some {key : Text} {d : Document} {seen : List Text} {field : Field σ}
    {rest : List (Option Text × Document)} (h : fieldOf? r.fields key = some field) :
    r.putMembers nesting seen state ((some key, d) :: rest) =
      if field.name ∈ seen then .error (.duplicateField field.name)
      else (field.put nesting d state).bind fun state =>
        r.putMembers nesting (field.name :: seen) state rest := by
  rw [fieldOf?] at h
  rw [putMembers, h]
  simp only [List.contains_iff_mem]
  rfl

/-- Members for different fields put their values into these fields. -/
theorem putMembers_eq {seen : List Text}
    (hnodup : ((settings r.fields members).map fun s => s.1.name).Nodup)
    (hseen : ∀ s ∈ settings r.fields members, s.1.name ∉ seen) :
    r.putMembers nesting seen state (Document.ofMembers members) =
      assign nesting state (settings r.fields members) := by
  induction members generalizing seen state with
  | nil => rfl
  | cons m rest ih =>
      rw [Document.ofMembers]
      cases hfield : fieldOf? r.fields m.1 with
      | none =>
          rw [settings_cons_of_none hfield] at hnodup hseen ⊢
          rw [putMembers_of_none hfield, ih hnodup hseen]
      | some field =>
          rw [settings_cons_of_some hfield] at hnodup hseen ⊢
          rw [List.map_cons, List.nodup_cons] at hnodup
          obtain ⟨hfirst, hrest⟩ := List.forall_mem_cons.mp hseen
          rw [putMembers_of_some hfield, if_neg hfirst, assign_cons]
          refine congrArg (Except.bind _) (funext fun next => ih hnodup.2 fun s hs hmem => ?_)
          rcases List.mem_cons.mp hmem with heq | hmem
          · exact hnodup.1 (List.mem_map.mpr ⟨s, hs, heq⟩)
          · exact hrest s hs hmem

/-- When the members are for different fields, no field has two values. -/
theorem valuesOf_length_le {field : Field σ}
    (hdisjoint : fields.Pairwise fun f g => List.Disjoint f.spellings g.spellings)
    (hfield : field ∈ fields)
    (hnodup : ((settings fields members).map fun s => s.1.name).Nodup) :
    (Json.valuesOf members field.spellings).length ≤ 1 := by
  have hsub : (((Json.valuesOf members field.spellings).map fun v => (field, v)).map
      fun s => s.1.name).Sublist ((settings fields members).map fun s => s.1.name) :=
    (valuesOf_sublist hdisjoint hfield).map _
  rw [List.map_map] at hsub
  have hsame := hnodup.sublist hsub
  match h : Json.valuesOf members field.spellings with
  | [] => exact Nat.zero_le 1
  | [_] => exact Nat.le_refl 1
  | _ :: _ :: _ => simp [h] at hsame

/-- Items put their values into the fields in order. -/
theorem putItems_eq (items : List Json) :
    putItems nesting state fields (Document.ofItems items) =
      assign nesting state (fields.zip items) := by
  induction fields generalizing items state with
  | nil => rfl
  | cons field fields ih =>
      cases items with
      | nil => rfl
      | cons v rest =>
          rw [Document.ofItems, putItems, List.zip_cons_cons, assign_cons]
          exact congrArg (Except.bind _) (funext fun next => ih rest)

theorem written_items (items : List Json) (missing : Nat) :
    written fields (items.map some ++ List.replicate missing none) = fields.zip items := by
  induction fields generalizing items missing with
  | nil => rfl
  | cons field fields ih =>
      cases items with
      | nil =>
          cases missing with
          | zero => rfl
          | succ missing => exact (ih [] missing).trans List.zip_nil_right
      | cons v rest => exact congrArg (List.cons (field, v)) (ih rest missing)

/-- Members that are for different fields amount to the record that their values make up. -/
theorem ofMembers_of_assign {final : σ} {value : α}
    (hnodup : ((settings r.fields members).map fun s => s.1.name).Nodup)
    (hassign : assign nesting r.initial (settings r.fields members) = .ok final)
    (hfinish : r.finish final = some value) :
    r.ofMembers nesting (Document.ofMembers members) true = .ok value := by
  refine Result.bind_eq_ok.mpr ⟨final, ?_, ?_⟩
  · rw [putMembers_eq hnodup fun _ _ => List.not_mem_nil, hassign]
  · simp only [hfinish]
    rfl

/-- Items, no more of them than there are fields, amount to the record that they make up. -/
theorem ofItems_of_assign {items : List Json} {final : σ} {value : α}
    (hlength : items.length ≤ r.fields.length)
    (hassign : assign nesting r.initial (r.fields.zip items) = .ok final)
    (hfinish : r.finish final = some value) :
    r.ofItems nesting (Document.ofItems items) true = .ok value := by
  have hcount : (Document.ofItems items).length = items.length := by
    rw [Document.ofItems_eq, List.length_map]
  refine Result.bind_eq_ok.mpr ⟨final, (putItems_eq items).trans hassign, ?_⟩
  simp only [hcount, hfinish, Nat.not_lt.mpr hlength, Bool.not_true, Bool.and_false]
  rfl

/-! ### Fields in order -/

/-- A field is set if there is a value for it. -/
def setIf (nesting : Nat) (state : σ) (field : Field σ) (v : Option Json) : Decoded σ :=
  match v with
  | none => .ok state
  | some v => set nesting state (field, v)

theorem assign_written {next final : σ} {field : Field σ} {v : Option Json}
    (h : setIf nesting state field v = .ok next)
    (hrest : assign nesting next (written fields values) = .ok final) :
    assign nesting state (written (field :: fields) (v :: values)) = .ok final := by
  cases v with
  | none =>
      obtain rfl := Except.ok.inj h
      exact hrest
  | some v =>
      refine (assign_cons (field, v) (written fields values)).trans ?_
      exact Result.bind_eq_ok.mpr ⟨next, h, hrest⟩

/-- A field is set to what its value is read as. -/
theorem setIf_value {β : Type} {read : Document → Decoded β} {field : Field σ} {v : Json}
    {value : β} (store : β → σ) (h : read (.ofJson v) = .ok value)
    (hput : ∀ d, field.put nesting d state = (read d).map store) :
    setIf nesting state field (some v) = .ok (store value) :=
  (hput (.ofJson v)).trans (Result.map_eq_ok.mpr ⟨value, h, rfl⟩)

/-- What is written for an optional value is read as that value; nothing and null both stand for
none. -/
def ReadAs {β : Type} (read : Document → Decoded β) (written : Option Json) (value : Option β) :
    Prop :=
  match written with
  | none => value = none
  | some v => (Document.ofJson v).optional read = .ok value

/-- A field for an optional value is set to that value, if it has none before. -/
theorem setIf_optional {β : Type} {read : Document → Decoded β} {field : Field σ}
    {v : Option Json} {value : Option β} (store : Option β → σ) (h : ReadAs read v value)
    (hput : ∀ d, field.put nesting d (store none) = (d.optional read).map store) :
    setIf nesting (store none) field v = .ok (store value) := by
  cases v with
  | none =>
      obtain rfl : value = none := h
      rfl
  | some v => exact setIf_value store h hput

/-! ### The order of members -/

theorem settings_cons_perm {field : Field σ}
    (hfield : ∀ other ∈ fields, List.Disjoint field.spellings other.spellings) :
    (settings (field :: fields) members).Perm
      ((Json.valuesOf members field.spellings).map (fun v => (field, v)) ++
        settings fields members) := by
  induction members with
  | nil => exact List.Perm.nil
  | cons m rest ih =>
      by_cases hmem : m.1 ∈ field.spellings
      · have hother : fieldOf? fields m.1 = none :=
          fieldOf?_eq_none.mpr fun other hother => hfield other hother hmem
        rw [settings_cons_of_some (fieldOf?_cons_of_mem hmem), settings_cons_of_none hother,
          Json.valuesOf_cons_of_mem hmem]
        exact ih.cons (field, m.2)
      · have hthis : fieldOf? (field :: fields) m.1 = fieldOf? fields m.1 :=
          fieldOf?_cons_of_not_mem hmem
        rw [Json.valuesOf_cons_of_not_mem hmem]
        cases hother : fieldOf? fields m.1 with
        | none =>
            rw [settings_cons_of_none (hthis.trans hother), settings_cons_of_none hother]
            exact ih
        | some other =>
            rw [settings_cons_of_some (hthis.trans hother), settings_cons_of_some hother]
            exact (ih.cons (other, m.2)).trans List.perm_middle.symm

/-- When no field is there twice, the members are for the fields that have a value. -/
theorem settings_perm
    (hdisjoint : fields.Pairwise fun f g => List.Disjoint f.spellings g.spellings)
    (hvalues : List.Forall₂ (fun field v => Json.valuesOf members field.spellings = Option.toList v)
      fields values) :
    (settings fields members).Perm (written fields values) := by
  induction hvalues with
  | nil =>
      have hnone : settings ([] : List (Field σ)) members = [] :=
        List.filterMap_eq_nil_iff.mpr fun _ _ => rfl
      rw [hnone]
      exact List.Perm.nil
  | cons hvalue _ ih =>
      rename_i field v fields values
      obtain ⟨hfield, hdisjoint⟩ := List.pairwise_cons.mp hdisjoint
      refine (settings_cons_perm hfield).trans ?_
      rw [hvalue, written, ← Option.toList_map]
      exact (ih hdisjoint).append_left _

/-- Fields that do not interfere can be set in any order. -/
theorem assign_perm {list list' : List (Field σ × Json)} (h : list.Perm list')
    (hnodup : (list.map fun s => s.1.name).Nodup)
    (hcomm : ∀ s ∈ list, ∀ t ∈ list, s.1.name ≠ t.1.name → ∀ state,
      (set nesting state s).bind (fun state => set nesting state t) =
        (set nesting state t).bind fun state => set nesting state s) :
    assign nesting state list = assign nesting state list' := by
  induction h generalizing state with
  | nil => rfl
  | cons s _ ih =>
      rw [assign_cons, assign_cons]
      rw [List.map_cons, List.nodup_cons] at hnodup
      exact congrArg (Except.bind _) (funext fun next => ih hnodup.2 fun t ht u hu =>
        hcomm t (List.mem_cons_of_mem s ht) u (List.mem_cons_of_mem s hu))
  | swap s t list =>
      have hne : t.1.name ≠ s.1.name := by
        rw [List.map_cons, List.nodup_cons] at hnodup
        exact fun heq => hnodup.1 (heq ▸ List.mem_cons_self)
      have hswap := hcomm t List.mem_cons_self s (List.mem_cons_of_mem t List.mem_cons_self) hne
      have htwo : ∀ a b : Field σ × Json, assign nesting state (a :: b :: list) =
          ((set nesting state a).bind fun state => set nesting state b).bind fun state =>
            assign nesting state list := by
        intro a b
        rw [assign_cons]
        simp only [assign_cons]
        cases set nesting state a <;> rfl
      rw [htwo, htwo, hswap]
  | trans hperm _ ih ih' =>
      rw [ih hnodup hcomm]
      refine ih' ((hperm.map _).nodup_iff.mp hnodup) fun s hs t ht => ?_
      exact hcomm s (hperm.mem_iff.mpr hs) t (hperm.mem_iff.mpr ht)

/-! ### Fields that are there twice -/

/-- Every value can be put into its field, or it is refused because of a field that is there twice
in it; `P` is what is known of the name of that field. -/
def Repeating (P : Text → Prop) (nesting : Nat) (list : List (Field σ × Json)) : Prop :=
  ∀ s ∈ list, ∀ state : σ, (∃ next, set nesting state s = .ok next) ∨
    ∃ name, P name ∧ set nesting state s = .error (.duplicateField name)

variable {P : Text → Prop} {list : List (Field σ × Json)}

theorem assign_ok_or (state : σ) (h : Repeating P nesting list) :
    (∃ next, assign nesting state list = .ok next) ∨
      ∃ name, P name ∧ assign nesting state list = .error (.duplicateField name) := by
  induction list generalizing state with
  | nil => exact .inl ⟨state, rfl⟩
  | cons s rest ih =>
      obtain ⟨hfirst, hrest⟩ := List.forall_mem_cons.mp h
      rw [assign_cons]
      rcases hfirst state with ⟨next, hnext⟩ | ⟨name, hname, herror⟩
      · rw [hnext]
        exact ih next hrest
      · rw [herror]
        exact .inr ⟨name, hname, rfl⟩

/-- A value that cannot be put into its field stops the others. -/
theorem exists_set_of_assign {next : σ} (h : assign nesting state list = .ok next) :
    ∀ s ∈ list, ∃ before after : σ, set nesting before s = .ok after := by
  induction list generalizing state with
  | nil => exact fun _ hs => absurd hs List.not_mem_nil
  | cons s rest ih =>
      rw [assign_cons] at h
      obtain ⟨after, hafter, h⟩ := Result.bind_eq_ok.mp h
      exact List.forall_mem_cons.mpr ⟨⟨state, after, hafter⟩, ih h⟩

theorem putMembers_ok_or (state : σ) (seen : List Text)
    (h : Repeating P nesting (settings r.fields members))
    (hnames : ∀ s ∈ settings r.fields members, P s.1.name) :
    (∃ next, r.putMembers nesting seen state (Document.ofMembers members) = .ok next) ∨
      ∃ name, P name ∧ r.putMembers nesting seen state (Document.ofMembers members) =
        .error (.duplicateField name) := by
  induction members generalizing seen state with
  | nil => exact .inl ⟨state, rfl⟩
  | cons m rest ih =>
      rw [Document.ofMembers]
      cases hfield : fieldOf? r.fields m.1 with
      | none =>
          rw [settings_cons_of_none hfield] at h hnames
          rw [putMembers_of_none hfield]
          exact ih state seen h hnames
      | some field =>
          rw [settings_cons_of_some hfield] at h hnames
          obtain ⟨hfirst, hrest⟩ := List.forall_mem_cons.mp h
          obtain ⟨hname, hnames⟩ := List.forall_mem_cons.mp hnames
          rw [putMembers_of_some hfield]
          split
          · exact .inr ⟨field.name, hname, rfl⟩
          · rcases hfirst state with ⟨next, hnext⟩ | ⟨name, hname, herror⟩
            · rw [set] at hnext
              rw [hnext]
              exact ih next (field.name :: seen) hrest hnames
            · rw [set] at herror
              rw [herror]
              exact .inr ⟨name, hname, rfl⟩

/-- Members are accepted only if they are for different fields, and if their values can be put into
them. -/
theorem assign_of_putMembers {seen : List Text} {next : σ}
    (h : r.putMembers nesting seen state (Document.ofMembers members) = .ok next) :
    ((settings r.fields members).map fun s => s.1.name).Nodup ∧
      (∀ s ∈ settings r.fields members, s.1.name ∉ seen) ∧
      assign nesting state (settings r.fields members) = .ok next := by
  induction members generalizing seen state with
  | nil => exact ⟨List.nodup_nil, fun _ hs => absurd hs List.not_mem_nil, h⟩
  | cons m rest ih =>
      rw [Document.ofMembers] at h
      cases hfield : fieldOf? r.fields m.1 with
      | none =>
          rw [putMembers_of_none hfield] at h
          rw [settings_cons_of_none hfield]
          exact ih h
      | some field =>
          rw [putMembers_of_some hfield] at h
          split at h
          · cases h
          · rename_i hnew
            obtain ⟨after, hafter, h⟩ := Result.bind_eq_ok.mp h
            obtain ⟨hnodup, hseen, hassign⟩ := ih h
            rw [settings_cons_of_some hfield, List.map_cons, List.nodup_cons,
              List.forall_mem_cons, assign_cons]
            refine ⟨⟨fun hmem => ?_, hnodup⟩, ⟨hnew, fun s hs hmem => ?_⟩, ?_⟩
            · obtain ⟨s, hs, heq⟩ := List.mem_map.mp hmem
              exact hseen s hs (heq ▸ List.mem_cons_self)
            · exact hseen s hs (List.mem_cons_of_mem _ hmem)
            · exact Result.bind_eq_ok.mpr ⟨after, hafter, hassign⟩

/-! ### What every field keeps -/

section Invariant

variable {Inv : σ → Prop} {d : Document} {final : σ} {value : α}

/-- A property of records under construction that every field keeps, whatever value without numbers
that are too large it is given. -/
def Keeps (fields : List (Field σ)) (nesting : Nat) (Inv : σ → Prop) : Prop :=
  ∀ f ∈ fields, ∀ d : Document, d.Sized → ∀ before after : σ, Inv before →
    f.put nesting d before = .ok after → Inv after

theorem putMembers_keeps (hkeeps : Keeps r.fields nesting Inv) {seen : List Text}
    {members : List (Option Text × Document)} (hsized : ∀ m ∈ members, m.2.Sized)
    (hstate : Inv state) (h : r.putMembers nesting seen state members = .ok final) : Inv final := by
  induction members generalizing seen state with
  | nil =>
      obtain rfl := Except.ok.inj h
      exact hstate
  | cons m rest ih =>
      obtain ⟨key, d⟩ := m
      obtain ⟨hd, hrest⟩ := List.forall_mem_cons.mp hsized
      cases key with
      | none => cases h
      | some key =>
          cases hfield : fieldOf? r.fields key with
          | none =>
              rw [putMembers_of_none hfield] at h
              exact ih hrest hstate h
          | some f =>
              rw [putMembers_of_some hfield] at h
              split at h
              · cases h
              · obtain ⟨next, hnext, h⟩ := Result.bind_eq_ok.mp h
                have hf := List.mem_of_find?_eq_some hfield
                exact ih hrest (hkeeps f hf d hd state next hstate hnext) h

theorem putItems_keeps (hkeeps : Keeps fields nesting Inv) {items : List Document}
    (hsized : ∀ d ∈ items, d.Sized) (hstate : Inv state)
    (h : putItems nesting state fields items = .ok final) : Inv final := by
  induction fields generalizing items state with
  | nil =>
      obtain rfl := Except.ok.inj h
      exact hstate
  | cons f fields ih =>
      obtain ⟨hf, hfields⟩ := List.forall_mem_cons.mp hkeeps
      cases items with
      | nil =>
          obtain rfl := Except.ok.inj h
          exact hstate
      | cons d items =>
          obtain ⟨hd, hitems⟩ := List.forall_mem_cons.mp hsized
          obtain ⟨next, hnext, h⟩ := Result.bind_eq_ok.mp h
          exact ih hfields hitems (hf d hd state next hstate hnext) h

theorem ofMembers_keeps (hkeeps : Keeps r.fields nesting Inv) (hinitial : Inv r.initial)
    {members : List (Option Text × Document)} {complete : Bool}
    (hsized : ∀ m ∈ members, m.2.Sized) (h : r.ofMembers nesting members complete = .ok value) :
    ∃ final, Inv final ∧ r.finish final = some value := by
  obtain ⟨final, hput, h⟩ := Result.bind_eq_ok.mp h
  refine ⟨final, putMembers_keeps hkeeps hsized hinitial hput, ?_⟩
  split at h
  · cases h
  · split at h
    · rename_i hfinish
      rw [hfinish, Except.ok.inj h]
    · cases h

theorem ofItems_keeps (hkeeps : Keeps r.fields nesting Inv) (hinitial : Inv r.initial)
    {items : List Document} {complete : Bool} (hsized : ∀ d ∈ items, d.Sized)
    (h : r.ofItems nesting items complete = .ok value) :
    ∃ final, Inv final ∧ r.finish final = some value := by
  obtain ⟨final, hput, h⟩ := Result.bind_eq_ok.mp h
  refine ⟨final, putItems_keeps hkeeps hsized hinitial hput, ?_⟩
  split at h
  · cases h
  · split at h
    · cases h
    · rename_i hfinish
      split at h
      · cases h
      · split at h
        · cases h
        · rw [hfinish, Except.ok.inj h]

/-- What every field keeps holds of the record that is read. -/
theorem decode_keeps (hkeeps : ∀ inner, nesting = inner + 1 → Keeps r.fields inner Inv)
    (hinitial : Inv r.initial) (hd : d.Sized) (h : r.decode nesting d = .ok value) :
    ∃ final, Inv final ∧ r.finish final = some value := by
  cases hd with
  | arr complete hitems =>
      cases nesting with
      | zero => cases h
      | succ inner => exact ofItems_keeps (hkeeps inner rfl) hinitial hitems h
  | obj complete hmembers =>
      cases nesting with
      | zero => cases h
      | succ inner => exact ofMembers_keeps (hkeeps inner rfl) hinitial hmembers h
  | _ => cases nesting <;> cases h

end Invariant

end Record

end WordingAudit
