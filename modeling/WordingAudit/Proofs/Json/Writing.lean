import WordingAudit.Proofs.Json.Records
import WordingAudit.Proofs.Json.Rendering

/-!
Records that are written as objects with their fields in order, those without a value left out. Such
an object is read as the record whose fields have these values.
-/

namespace WordingAudit

namespace Json

variable {nesting : Nat}

theorem fits_str (t : Text) : (str t).Fits nesting := by
  cases nesting <;> rfl

theorem fits_int (n : Int) : (int n).Fits nesting := by
  cases nesting <;> rfl

theorem Fits.obj {members : List (Text × Json)} (h : ∀ m ∈ members, m.2.Fits nesting) :
    (obj members).Fits (nesting + 1) := by
  rw [Fits, Document.ofJson, Document.ofMembers_eq, Document.value?, if_pos rfl]
  refine congrArg (Option.map Json.obj) (?_ : _ = some members)
  induction members with
  | nil => rfl
  | cons m rest ih =>
      obtain ⟨hm, hrest⟩ := List.forall_mem_cons.mp h
      have hvalue : (Document.ofJson m.2).value? nesting = some m.2 := hm
      rw [List.map_cons, List.mapM_cons, ih hrest]
      simp [hvalue]

end Json

namespace Document

/-- A list is read back when each of its items is. -/
theorem list_of_items {α : Type} {read : Nat → Document → Decoded α} {encode : α → Json}
    {nesting : Nat} {list : List α} (h : ∀ a ∈ list, read nesting (.ofJson (encode a)) = .ok a) :
    (ofJson (.arr (list.map encode))).list read (nesting + 1) = .ok list := by
  have hitems : (ofItems (list.map encode)).mapM (read nesting) = .ok list := by
    rw [ofItems_eq]
    induction list with
    | nil => rfl
    | cons a rest ih =>
        obtain ⟨ha, hrest⟩ := List.forall_mem_cons.mp h
        exact Result.mapM_cons_eq_ok.mpr ⟨a, rest, ha, ih hrest, rfl⟩
  exact Result.bind_eq_ok.mpr ⟨list, hitems, rfl⟩

end Document

namespace Record

variable {σ α : Type} {r : Record σ α} {fields : List (Field σ)} {nesting : Nat}
  {values : List (Option Json)}

/-- The members of an object with these values for its fields. -/
def named (fields : List (Field σ)) (values : List (Option Json)) : List (Text × Json) :=
  (written fields values).map fun s => (s.1.name, s.2)

theorem named_nil (values : List (Option Json)) : named ([] : List (Field σ)) values = [] := rfl

theorem named_cons (field : Field σ) (v : Option Json) :
    named (field :: fields) (v :: values) =
      (v.map fun v => (field.name, v)).toList ++ named fields values := by
  cases v <;> rfl

theorem settings_named
    (hdisjoint : fields.Pairwise fun f g => List.Disjoint f.spellings g.spellings)
    (hnames : ∀ f ∈ fields, f.name ∈ f.spellings) (values : List (Option Json)) :
    settings fields (named fields values) = written fields values := by
  rw [settings, named, List.filterMap_map]
  refine (List.filterMap_congr fun s hs => ?_).trans List.filterMap_some
  have hfield := (List.of_mem_zip (mem_written.mp hs)).1
  exact congrArg (Option.map fun field => (field, s.2))
    (fieldOf?_of_mem hdisjoint hfield (hnames s.1 hfield))

/-- The fields of a record do not get in the way of one another. -/
structure Separate (fields : List (Field σ)) : Prop where
  disjoint : fields.Pairwise fun f g => List.Disjoint f.spellings g.spellings
  names : ∀ f ∈ fields, f.name ∈ f.spellings
  nodup : (fields.map (·.name)).Nodup

/-- A record is read back from its fields in order. -/
theorem decode_named {final : σ} {value : α} (hfields : Separate r.fields)
    (hassign : assign nesting r.initial (written r.fields values) = .ok final)
    (hfinish : r.finish final = some value) :
    r.decode (nesting + 1) (.ofJson (.obj (named r.fields values))) = .ok value := by
  have hsettings := settings_named hfields.disjoint hfields.names values
  refine ofMembers_of_assign ?_ (hsettings ▸ hassign) hfinish
  rw [hsettings]
  exact (written_names_sublist values).nodup hfields.nodup

theorem whole_named (h : ∀ v ∈ values, ∀ w, v = some w → w.Whole) :
    (Json.obj (named fields values)).Whole := by
  refine .obj fun m hm => ?_
  obtain ⟨s, hs, rfl⟩ := List.mem_map.mp hm
  exact h _ (List.of_mem_zip (mem_written.mp hs)).2 s.2 rfl

end Record

end WordingAudit
