import WordingAudit.Proofs.Entries
import WordingAudit.Proofs.Json.Tree

/-!
The entries of a nested document beside the scalars in it. Every scalar has the segments of its path
for a key, and scalars that come to the same key are told apart by their order alone. Where keys are
not empty and hold no dot, a key tells the path, so that no scalar is lost.
-/

namespace WordingAudit

namespace Wordings

variable {v : Json} {key : Text} {value : Json} {path : List Text}

/-- The key of a path: its segments with dots between them, without those that are empty at its
beginning. -/
def keyOf (path : List Text) : Text := Text.join ['.'] (path.dropWhile List.isEmpty)

theorem foldl_extendPath (segments : List Text) {start : Text} (h : start ≠ []) :
    segments.foldl extendPath start = Text.join ['.'] (start :: segments) := by
  induction segments generalizing start with
  | nil => rfl
  | cons s rest ih =>
      have hextend : extendPath start s = start ++ ['.'] ++ s := by
        rw [extendPath, if_neg (by simpa using h)]
      have hne : start ++ ['.'] ++ s ≠ [] := by simp
      rw [List.foldl_cons, hextend, ih hne]
      cases rest <;> simp [Text.join]

theorem foldl_extendPath_nil (path : List Text) : path.foldl extendPath [] = keyOf path := by
  induction path with
  | nil => rfl
  | cons s rest ih =>
      have hextend : extendPath [] s = s := rfl
      rw [List.foldl_cons, hextend]
      by_cases hs : s = []
      · subst hs
        exact ih
      · rw [foldl_extendPath rest hs, keyOf, List.dropWhile_cons_of_neg (by simpa using hs)]

theorem memberLeaves_eq (path : Text) (members : List (Text × Json)) :
    memberLeaves path members = members.flatMap fun c => leaves (extendPath path c.1) c.2 := by
  induction members with
  | nil => rfl
  | cons m rest ih => rw [memberLeaves, ih, List.flatMap_cons]

theorem itemLeaves_eq (path : Text) (index : Nat) (items : List Json) :
    itemLeaves path index items = (items.zipIdx index).flatMap fun item =>
      leaves (extendPath path (Text.ofNat item.2)) item.1 := by
  induction items generalizing index with
  | nil => rfl
  | cons v rest ih => rw [itemLeaves, ih, List.zipIdx_cons, List.flatMap_cons]

theorem leaves_eq (path : Text) (v : Json) :
    leaves path v =
      if v.isScalar then (if path.isEmpty then [] else [(path, v)])
      else v.children.flatMap fun c => leaves (extendPath path c.1) c.2 := by
  cases v with
  | arr items =>
      rw [leaves, itemLeaves_eq, Json.children, List.flatMap_map]
      rfl
  | obj members =>
      rw [leaves, memberLeaves_eq]
      rfl
  | _ => rfl

/-- The leaves under a path are the scalars, with the path continued by theirs. -/
theorem leaves_eq_scalars (start : Text) (v : Json) :
    leaves start v = (v.scalars.map fun s => (s.1.foldl extendPath start, s.2)).filter
      fun e => !e.1.isEmpty := by
  -- the path grows on the way down, so the induction is for every path to start from
  induction v using Json.induct generalizing start with
  | step v ih =>
      rw [leaves_eq, Json.scalars_eq]
      split
      · cases start <;> rfl
      · rw [List.map_flatMap, List.filter_flatMap]
        refine List.flatMap_congr fun c hc => ?_
        rw [ih c hc, Json.under, List.map_map]
        rfl

theorem flatten_eq (v : Json) :
    flatten v = Entries.ofList ((v.scalars.map fun s => (keyOf s.1, s.2)).filter
      fun e => !e.1.isEmpty) := by
  rw [flatten, leaves_eq_scalars]
  simp only [foldl_extendPath_nil]

theorem mem_flatten :
    (key, value) ∈ flatten v ↔ key ≠ [] ∧ ∃ before path after,
      v.scalars = before ++ (path, value) :: after ∧ keyOf path = key ∧
        ∀ s ∈ after, keyOf s.1 ≠ key := by
  rw [flatten_eq, Entries.mem_ofList]
  -- a cut of the pairs that are kept is one of all pairs, and this is one of the scalars
  constructor
  · rintro ⟨before, after, hsplit, hafter⟩
    obtain ⟨front, back, hpairs, -, hback⟩ := List.filter_eq_append_iff.mp hsplit
    obtain ⟨skipped, rest, rfl, -, hkey, rfl⟩ := List.filter_eq_cons_iff.mp hback
    rw [← List.append_assoc, List.map_eq_append_iff] at hpairs
    obtain ⟨scalars, others, hscalars, -, hothers⟩ := hpairs
    obtain ⟨⟨path, x⟩, last, rfl, hlast, rfl⟩ := List.map_eq_cons_iff.mp hothers
    obtain ⟨rfl, rfl⟩ := Prod.mk.inj hlast
    have hne : keyOf path ≠ [] := by simpa using hkey
    refine ⟨hne, scalars, path, last, hscalars, rfl, fun s hs heq => ?_⟩
    refine hafter (keyOf s.1, s.2) (List.mem_filter.mpr ⟨?_, ?_⟩) heq
    · exact List.mem_map_of_mem hs
    · simpa [heq] using hne
  · rintro ⟨hne, before, path, after, hscalars, rfl, hafter⟩
    have hkept (rest : List (Text × Json)) :
        ((keyOf path, value) :: rest).filter (fun e => !e.1.isEmpty) =
          (keyOf path, value) :: rest.filter fun e => !e.1.isEmpty :=
      List.filter_cons_of_pos (by simpa using hne)
    rw [hscalars, List.map_append, List.map_cons, List.filter_append, hkept]
    refine ⟨_, _, rfl, fun p hp => ?_⟩
    obtain ⟨s, hs, rfl⟩ := List.mem_map.mp (List.mem_of_mem_filter hp)
    exact hafter s hs

theorem mem_keys_flatten :
    key ∈ (flatten v).keys ↔ key ≠ [] ∧ ∃ s ∈ v.scalars, keyOf s.1 = key := by
  rw [flatten_eq, Entries.mem_keys_ofList]
  simp only [List.mem_map, List.mem_filter]
  constructor
  · rintro ⟨e, ⟨⟨s, hs, rfl⟩, hkey⟩, rfl⟩
    exact ⟨by simpa using hkey, s, hs, rfl⟩
  · rintro ⟨hne, s, hs, rfl⟩
    exact ⟨_, ⟨⟨s, hs, rfl⟩, by simpa using hne⟩, rfl⟩

theorem ascending_flatten (v : Json) : KeySet.Ascending (flatten v).keys :=
  Entries.ascending_ofList _

theorem isScalar_of_mem_flatten (h : (key, value) ∈ flatten v) : value.isScalar = true := by
  obtain ⟨-, before, path, after, hscalars, -⟩ := mem_flatten.mp h
  have hmem : (path, value) ∈ v.scalars := by
    rw [hscalars]
    exact List.mem_append_right before List.mem_cons_self
  exact Json.isScalar_of_mem_scalars hmem

/-- A nested document has an entry for each key that a scalar in it comes to, the empty one left
out, and the value is the last scalar that comes to the key. Nothing else in the document counts. -/
theorem flatten_collects (v : Json) :
    (flatten v).keys.Pairwise (· < ·) ∧
    (∀ key value, (key, value) ∈ flatten v ↔ key ≠ [] ∧ ∃ before path after,
      v.scalars = before ++ (path, value) :: after ∧ keyOf path = key ∧
        ∀ s ∈ after, keyOf s.1 ≠ key) ∧
    (∀ key, key ∈ (flatten v).keys ↔ key ≠ [] ∧ ∃ s ∈ v.scalars, keyOf s.1 = key) ∧
    (∀ e ∈ flatten v, e.2.isScalar = true) ∧
    (v.isScalar = true → flatten v = []) ∧
    ∀ w : Json, w.scalars = v.scalars → flatten w = flatten v := by
  refine ⟨ascending_flatten v, fun _ _ => mem_flatten, fun _ => mem_keys_flatten,
    fun _ => isScalar_of_mem_flatten, fun hroot => ?_, fun w hw => ?_⟩
  · rw [flatten_eq, Json.scalars_eq, if_pos hroot]
    rfl
  · rw [flatten_eq, flatten_eq, hw]

/-- Members that come to the same keys: one under an empty key, one with a dot in its key. -/
def collidingMembers : List (Text × Json) :=
  [([], .arr [.str ['k'], .null, .obj []]), (['0'], .int 7),
    (['a'], .obj [([], .obj [(['b'], .int 1)])]), (Text.of "a..b", .bool true)]

theorem flatten_collects_sample :
    flatten (.obj collidingMembers) = [(['0'], .int 7), (Text.of "a..b", .bool true)] ∧
    (∃ before path after,
      (Json.obj collidingMembers).scalars = before ++ (path, .int 7) :: after ∧
        keyOf path = ['0'] ∧ ∀ s ∈ after, keyOf s.1 ≠ ['0']) ∧
    Json.isScalar (.int 7) = true ∧
    flatten (.str ['k']) = [] ∧
    flatten (.obj (collidingMembers ++ [(['0'], .null), (Text.of "a..b", .obj [])])) =
      flatten (.obj collidingMembers) := by
  have hvalue : flatten (.obj collidingMembers) =
      [(['0'], .int 7), (Text.of "a..b", .bool true)] := by decide
  have hentry : (['0'], Json.int 7) ∈ flatten (.obj collidingMembers) := by
    rw [hvalue]
    exact List.mem_cons_self
  obtain ⟨-, hmem, -, hscalar, -, hsame⟩ := flatten_collects (.obj collidingMembers)
  obtain ⟨-, -, -, -, hroot, -⟩ := flatten_collects (.str ['k'])
  exact ⟨hvalue, ((hmem _ _).mp hentry).2, hscalar _ hentry, hroot rfl, hsame _ rfl⟩

/-! ### Documents without dots in their keys -/

/-- A segment that stands out in a key. -/
def IsSegment (s : Text) : Prop := s ≠ [] ∧ '.' ∉ s

instance : DecidablePred IsSegment := fun _ => inferInstanceAs (Decidable (_ ∧ _))

theorem isSegment_ofNat (n : Nat) : IsSegment (Text.ofNat n) := by
  refine ⟨Nat.toDigits_ne_nil, fun hdot => ?_⟩
  have hdigit := Nat.isDigit_of_mem_toDigits (by decide) (by decide) hdot
  exact absurd hdigit (by decide)

theorem splitAll_keyOf (hne : path ≠ []) (hpath : ∀ s ∈ path, IsSegment s) :
    Text.splitAll (keyOf path) '.' = path := by
  cases path with
  | nil => exact absurd rfl hne
  | cons s rest =>
      have hs : s ≠ [] := (hpath s List.mem_cons_self).1
      rw [keyOf, List.dropWhile_cons_of_neg (by simpa using hs)]
      exact Text.splitAll_join hne fun piece hpiece => (hpath piece hpiece).2

theorem keyOf_ne_nil (hne : path ≠ []) (hpath : ∀ s ∈ path, IsSegment s) : keyOf path ≠ [] := by
  intro hkey
  have hsplit := splitAll_keyOf hne hpath
  rw [hkey] at hsplit
  have hmem : [] ∈ path := hsplit ▸ List.mem_singleton.mpr rfl
  exact (hpath [] hmem).1 rfl

end Wordings

open Wordings (IsSegment)

namespace Json

variable {v x : Json} {path : List Text}

/-- No object has a key that is empty or holds a dot. -/
def Plain (v : Json) : Prop := ∀ keys ∈ v.objectKeys, ∀ key ∈ keys, IsSegment key

instance (v : Json) : Decidable v.Plain :=
  inferInstanceAs (Decidable (∀ _ ∈ _, ∀ _ ∈ _, IsSegment _))

theorem Plain.child (h : v.Plain) {c : Text × Json} (hc : c ∈ v.children) :
    IsSegment c.1 ∧ c.2.Plain := by
  obtain ⟨hkeys, hbelow⟩ := forall_objectKeys.mp h
  refine ⟨?_, hbelow c hc⟩
  cases v with
  | arr items =>
      obtain ⟨i, -, hi⟩ := mem_children_arr.mp hc
      rw [hi]
      exact Wordings.isSegment_ofNat i
  | obj members => exact hkeys members rfl c.1 (List.mem_map_of_mem hc)
  | _ => exact absurd hc List.not_mem_nil

theorem Plain.segments (h : v.Plain) (hmem : (path, x) ∈ v.scalars) : ∀ s ∈ path, IsSegment s := by
  induction v using induct generalizing path with
  | step v ih =>
      rcases mem_scalars.mp hmem with ⟨-, rfl, -⟩ | ⟨c, hc, rest, rfl, hrest⟩
      · exact fun s hs => absurd hs List.not_mem_nil
      · obtain ⟨hsegment, hplain⟩ := h.child hc
        exact List.forall_mem_cons.mpr ⟨hsegment, ih c hc hplain hrest⟩

theorem path_ne_nil (h : v.isScalar = false) (hmem : (path, x) ∈ v.scalars) : path ≠ [] := by
  rcases mem_scalars.mp hmem with ⟨hscalar, -⟩ | ⟨c, -, rest, rfl, -⟩
  · rw [h] at hscalar
    cases hscalar
  · exact List.cons_ne_nil c.1 rest

end Json

namespace Wordings

variable {v : Json}

section Plain

variable (hdistinct : v.Distinct) (hplain : v.Plain) (hroot : v.isScalar = false)
include hplain hroot

theorem splitAll_keyOf_scalar {s : List Text × Json} (hs : s ∈ v.scalars) :
    Text.splitAll (keyOf s.1) '.' = s.1 :=
  splitAll_keyOf (Json.path_ne_nil hroot hs) (hplain.segments hs)

include hdistinct

/-- Different scalars come to different keys. -/
theorem nodup_keyOf_scalars : (v.scalars.map fun s => keyOf s.1).Nodup := by
  -- splitting undoes the joining, and paths are different already
  have hsplit : (v.scalars.map fun s => keyOf s.1).map (Text.splitAll · '.') =
      v.scalars.map (·.1) := by
    rw [List.map_map]
    exact List.map_congr_left fun s hs => splitAll_keyOf_scalar hplain hroot hs
  exact List.Nodup.of_map (Text.splitAll · '.') (hsplit ▸ hdistinct.paths)

/-- The entries are the scalars under their keys, in another order. -/
theorem flatten_perm : (flatten v).Perm (v.scalars.map fun s => (keyOf s.1, s.2)) := by
  have hall : (v.scalars.map fun s => (keyOf s.1, s.2)).filter (fun e => !e.1.isEmpty) =
      v.scalars.map fun s => (keyOf s.1, s.2) := by
    refine List.filter_eq_self.mpr fun e he => ?_
    obtain ⟨s, hs, rfl⟩ := List.mem_map.mp he
    simpa using keyOf_ne_nil (Json.path_ne_nil hroot hs) (hplain.segments hs)
  rw [flatten_eq, hall]
  apply Entries.perm_ofList
  rw [List.map_map]
  exact nodup_keyOf_scalars hdistinct hplain hroot

end Plain

/-- A document that is no scalar, with different keys in each object, none of them empty or with a
dot, has one entry for each scalar. The key of an entry, split at its dots, is the path of the
scalar. -/
theorem flatten_lossless (hdistinct : v.Distinct) (hplain : v.Plain) (hroot : v.isScalar = false) :
    (v.scalars.map fun s => keyOf s.1).Nodup ∧
    (flatten v).length = v.scalars.length ∧
    (∀ s ∈ v.scalars, (keyOf s.1, s.2) ∈ flatten v ∧ Text.splitAll (keyOf s.1) '.' = s.1) ∧
    ∀ e ∈ flatten v, (Text.splitAll e.1 '.', e.2) ∈ v.scalars ∧
      v.at? (Text.splitAll e.1 '.') = some e.2 := by
  have hperm := flatten_perm hdistinct hplain hroot
  refine ⟨nodup_keyOf_scalars hdistinct hplain hroot, ?_, fun s hs => ⟨?_, ?_⟩, fun e he => ?_⟩
  · rw [hperm.length_eq, List.length_map]
  · exact hperm.mem_iff.mpr (List.mem_map_of_mem hs)
  · exact splitAll_keyOf_scalar hplain hroot hs
  · obtain ⟨s, hs, rfl⟩ := List.mem_map.mp (hperm.mem_iff.mp he)
    have hmem : (Text.splitAll (keyOf s.1) '.', s.2) ∈ v.scalars := by
      rw [splitAll_keyOf_scalar hplain hroot hs]
      exact hs
    exact ⟨hmem, ((Json.mem_scalars_iff_at? hdistinct).mp hmem).1⟩

/-- A document with objects and arrays in one another, and parts that hold no scalar. -/
def plainDocument : Json :=
  .obj [(Text.of "faq", .arr [.obj [(['q'], .str (Text.of "Why?"))], .str (Text.of "plain")]),
    (['b'], .obj [(['1'], .bool false), (['0'], .null)]), (Text.of "empty", .arr [])]

theorem flatten_lossless_sample :
    plainDocument.Distinct ∧ plainDocument.Plain ∧ plainDocument.isScalar = false ∧
    flatten plainDocument = [(Text.of "b.1", .bool false), (Text.of "faq.0.q",
      .str (Text.of "Why?")), (Text.of "faq.1", .str (Text.of "plain"))] ∧
    (flatten plainDocument).length = plainDocument.scalars.length ∧
    Text.splitAll (keyOf [['b'], ['1']]) '.' = [['b'], ['1']] ∧
    plainDocument.at? [Text.of "faq", ['0'], ['q']] = some (.str (Text.of "Why?")) := by
  have hread : Json.read? (Text.of ("\x7b\"faq\": [\x7b\"q\": \"Why?\"\x7d, \"plain\"], " ++
      "\"b\": \x7b\"1\": false, \"0\": null\x7d, \"empty\": []\x7d")) = some plainDocument := by
    decide +kernel
  have hdistinct : plainDocument.Distinct := Json.distinct_of_read? hread
  have hplain : plainDocument.Plain := by decide
  obtain ⟨-, hlength, hscalars, hentries⟩ := flatten_lossless hdistinct hplain rfl
  have hentry : (Text.of "faq.0.q", Json.str (Text.of "Why?")) ∈ flatten plainDocument :=
    List.mem_cons_of_mem _ List.mem_cons_self
  have hscalar : ([['b'], ['1']], Json.bool false) ∈ plainDocument.scalars :=
    List.mem_cons_of_mem _ (List.mem_cons_of_mem _ List.mem_cons_self)
  exact ⟨hdistinct, hplain, rfl, rfl, hlength, (hscalars _ hscalar).2, (hentries _ hentry).2⟩

end Wordings

end WordingAudit
