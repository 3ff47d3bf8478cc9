import Mathlib.Data.Char
import Mathlib.Data.List.Lex
import Mathlib.Data.List.Sort
import WordingAudit.Project.Scan
import WordingAudit.Proofs.Files.Listing
import WordingAudit.Proofs.Lists

/-!
What a walk comes to. Below a directory these are the places that directories without a dot in their
names lead to, each once and in the order of the names, in whatever order the entries are listed.
-/

namespace WordingAudit

namespace NameShape

variable {name extension : Text}

theorem ofName_eq_directory : ofName name = .directory ↔ '.' ∉ name := by
  rw [ofName, ← Text.splitOnce_eq_none_iff]
  cases Text.splitOnce name '.' with
  | none => simp
  | some ends =>
      dsimp only
      split <;> simp

theorem ofName_eq_file :
    ofName name = .file extension ↔
      ∃ stem, name = stem ++ '.' :: extension ∧ '.' ∉ stem ∧ '.' ∉ extension := by
  rw [ofName]
  constructor
  · intro h
    cases hsplit : Text.splitOnce name '.' with
    | none => simp [hsplit] at h
    | some ends =>
        obtain ⟨stem, rest⟩ := ends
        obtain ⟨hname, hstem⟩ := Text.splitOnce_eq_some_iff.mp hsplit
        by_cases hrest : '.' ∈ rest
        · simp [hsplit, hrest] at h
        · simp only [hsplit, hrest, if_false, file.injEq] at h
          subst h
          exact ⟨stem, hname, hstem, hrest⟩
  · rintro ⟨stem, rfl, hstem, hextension⟩
    rw [Text.splitOnce_append hstem]
    exact if_neg hextension

end NameShape

section NameOrder

variable {α β : Type} {e : Text × α} {entries : List (Text × α)}

theorem insertNamed_perm (e : Text × α) (entries : List (Text × α)) :
    (insertNamed e entries).Perm (e :: entries) := by
  induction entries with
  | nil => exact .refl _
  | cons other rest ih =>
      rw [insertNamed]
      split
      · exact (ih.cons other).trans (.swap e other rest)
      · exact .refl _

theorem inNameOrder_perm (entries : List (Text × α)) : (inNameOrder entries).Perm entries := by
  induction entries with
  | nil => exact .refl _
  | cons e rest ih => exact (insertNamed_perm e _).trans (ih.cons e)

theorem mem_inNameOrder : e ∈ inNameOrder entries ↔ e ∈ entries :=
  (inNameOrder_perm entries).mem_iff

theorem ascending_insertNamed (h : entries.Pairwise fun a b => a.1 < b.1)
    (hnew : ∀ other ∈ entries, other.1 ≠ e.1) :
    (insertNamed e entries).Pairwise fun a b => a.1 < b.1 := by
  induction entries with
  | nil => exact List.pairwise_singleton _ _
  | cons other rest ih =>
      obtain ⟨hother, hrest⟩ := List.pairwise_cons.mp h
      obtain ⟨hne, hnew⟩ := List.forall_mem_cons.mp hnew
      rw [insertNamed]
      split
      · rename_i hlt
        refine List.pairwise_cons.mpr ⟨fun later hlater => ?_, ih hrest hnew⟩
        rcases List.mem_cons.mp ((insertNamed_perm e rest).mem_iff.mp hlater) with rfl | hlater
        · exact hlt
        · exact hother later hlater
      · rename_i hnlt
        have hlt : e.1 < other.1 := lt_of_le_of_ne (not_lt.mp hnlt) hne.symm
        refine List.pairwise_cons.mpr ⟨List.forall_mem_cons.mpr ⟨hlt, ?_⟩, h⟩
        exact fun later hlater => List.lt_trans hlt (hother later hlater)

theorem ascending_inNameOrder (distinct : (entries.map (·.1)).Nodup) :
    (inNameOrder entries).Pairwise fun a b => a.1 < b.1 := by
  induction entries with
  | nil => exact .nil
  | cons e rest ih =>
      obtain ⟨hnew, hrest⟩ := List.nodup_cons.mp distinct
      refine ascending_insertNamed (ih hrest) fun other hother hname => hnew ?_
      exact List.mem_map.mpr ⟨other, mem_inNameOrder.mp hother, hname⟩

/-- What goes by the names does not count. -/
theorem inNameOrder_map (f : Text × α → β) (entries : List (Text × α)) :
    inNameOrder (entries.map fun e => (e.1, f e)) =
      (inNameOrder entries).map fun e => (e.1, f e) := by
  have hinsert (e : Text × α) (others : List (Text × α)) :
      insertNamed (e.1, f e) (others.map fun e => (e.1, f e)) =
        (insertNamed e others).map fun e => (e.1, f e) := by
    induction others with
    | nil => rfl
    | cons other rest ih =>
        rw [List.map_cons, insertNamed, insertNamed, ih]
        split <;> rfl
  induction entries with
  | nil => rfl
  | cons e rest ih =>
      rw [List.map_cons, inNameOrder, List.foldr_cons, ← inNameOrder, ih, hinsert]
      rfl

end NameOrder

namespace Node

variable {n n' : Node} {name : Text} {names : List Text}

/-- Names lead from a directory to a place that a walk comes to: no directory on the way has a dot
in its name. -/
structure Reaches (n : Node) (names : List Text) : Prop where
  ne_nil : names ≠ []
  found : (n.at? names).isSome
  plain : ∀ parent ∈ names.dropLast, '.' ∉ parent

/-- What a walk of a directory at a path says about the place that names lead to. -/
def entryAt (n : Node) (path : Text) (names : List Text) : WalkEntry :=
  ⟨names.foldl Path.join path, names.getLastD [], (n.at? names).any isDirectory⟩

theorem not_reaches (h : n.isDirectory = false) : ¬ n.Reaches names := by
  intro hreaches
  cases names with
  | nil => exact hreaches.ne_nil rfl
  | cons name rest =>
      have hfound := hreaches.found
      cases n with
      | file => cases hfound
      | link => cases hfound
      | directory => cases h

theorem reaches_cons : n.Reaches (name :: names) ↔
    ∃ child, n.child? name = some child ∧ (names = [] ∨ '.' ∉ name ∧ child.Reaches names) := by
  constructor
  · intro ⟨_, hfound, hplain⟩
    rw [at?, Option.isSome_iff_exists] at hfound
    obtain ⟨e, he⟩ := hfound
    obtain ⟨child, hchild, hrest⟩ := Option.bind_eq_some_iff.mp he
    refine ⟨child, hchild, ?_⟩
    by_cases hnames : names = []
    · exact Or.inl hnames
    · rw [List.dropLast_cons_of_ne_nil hnames, List.forall_mem_cons] at hplain
      exact Or.inr ⟨hplain.1, hnames, Option.isSome_iff_exists.mpr ⟨e, hrest⟩, hplain.2⟩
  · rintro ⟨child, hchild, rfl | ⟨hname, hreaches⟩⟩
    · exact ⟨List.cons_ne_nil _ _, by simp [at?, hchild], by simp⟩
    · refine ⟨List.cons_ne_nil _ _, ?_, ?_⟩
      · rw [at?, hchild]
        exact hreaches.found
      · rw [List.dropLast_cons_of_ne_nil hreaches.ne_nil, List.forall_mem_cons]
        exact ⟨hname, hreaches.plain⟩

theorem entryAt_singleton {child : Node} (hchild : n.child? name = some child) (path : Text) :
    n.entryAt path [name] = ⟨Path.join path name, name, child.isDirectory⟩ := by
  simp [entryAt, at?, hchild]

/-- Below an entry a walk says what the walk of that entry says. -/
theorem entryAt_cons {child : Node} (hchild : n.child? name = some child) (hnames : names ≠ [])
    (path : Text) :
    n.entryAt path (name :: names) = child.entryAt (Path.join path name) names := by
  obtain ⟨first, rest, rfl⟩ := List.exists_cons_of_ne_nil hnames
  simp [entryAt, at?, hchild]

theorem walk_directory (path : Text) (entries : List (Text × Node)) :
    (directory entries).walk path = (inNameOrder entries).flatMap fun e =>
      ⟨Path.join path e.1, e.1, e.2.isDirectory⟩ ::
        (if '.' ∉ e.1 then e.2.walk (Path.join path e.1) else []) := by
  have hgroups : walkEntries path entries = entries.map fun e =>
      (e.1, ⟨Path.join path e.1, e.1, e.2.isDirectory⟩ ::
        (if '.' ∉ e.1 then e.2.walk (Path.join path e.1) else [])) := by
    induction entries with
    | nil => rfl
    | cons e rest ih =>
        rw [walkEntries, List.map_cons, ih]
        simp only [NameShape.ofName_eq_directory]
  rw [walk, hgroups, inNameOrder_map, List.flatMap_map]

/-- An entry and the places below it, which are left out if its name has a dot. -/
def under (name : Text) (below : List (List Text)) : List (List Text) :=
  [name] :: if '.' ∉ name then below.map (name :: ·) else []

theorem mem_under {below : List (List Text)} :
    names ∈ under name below ↔
      ∃ rest, names = name :: rest ∧ (rest = [] ∨ '.' ∉ name ∧ rest ∈ below) := by
  rw [under, List.mem_cons]
  by_cases hname : '.' ∈ name
  · simp [hname]
  · simp only [hname, not_false_eq_true, if_true, List.mem_map, true_and]
    constructor
    · rintro (rfl | ⟨rest, hrest, rfl⟩)
      · exact ⟨[], rfl, Or.inl rfl⟩
      · exact ⟨rest, rfl, Or.inr hrest⟩
    · rintro ⟨rest, rfl, rfl | hrest⟩
      · exact Or.inl rfl
      · exact Or.inr ⟨rest, hrest, rfl⟩

theorem ascending_under {below : List (List Text)} (hbelow : below.Pairwise (· < ·))
    (hne : ∀ rest ∈ below, rest ≠ []) : (under name below).Pairwise (· < ·) := by
  rw [under]
  split
  · refine List.pairwise_cons.mpr ⟨fun names hnames => ?_, ?_⟩
    · obtain ⟨rest, hrest, rfl⟩ := List.mem_map.mp hnames
      obtain ⟨first, others, rfl⟩ := List.exists_cons_of_ne_nil (hne rest hrest)
      exact List.cons_lt_cons_iff.mpr (Or.inr ⟨rfl, List.nil_lt_cons first others⟩)
    · refine List.pairwise_map.mpr (hbelow.imp fun hlt => ?_)
      exact List.cons_lt_cons_iff.mpr (Or.inr ⟨rfl, hlt⟩)
  · exact List.pairwise_singleton _ _

/-- A walk comes to every place there is to come to, each once, in the order of the names. -/
theorem walk_spec (hlegal : n.Legal) :
    ∃ places : List (List Text), places.Pairwise (· < ·) ∧
      (∀ names, names ∈ places ↔ n.Reaches names) ∧
      ∀ path, n.walk path = places.map (n.entryAt path) := by
  induction hlegal with
  | file content => exact ⟨[], .nil, fun names => by simpa using not_reaches rfl, fun path => rfl⟩
  | link target => exact ⟨[], .nil, fun names => by simpa using not_reaches rfl, fun path => rfl⟩
  | @directory entries distinct names below ih =>
      -- the places below each entry, to be put behind the name of the entry
      choose! places hascending hmem hwalk using ih
      have hchild : ∀ e ∈ entries, (directory entries).child? e.1 = some e.2 :=
        fun e he => (lookup_eq_some_iff_mem distinct).mpr he
      refine ⟨(inNameOrder entries).flatMap fun e => under e.1 (places e), ?_, fun names => ?_,
        fun path => ?_⟩
      · refine List.pairwise_flatMap.mpr ⟨fun e he => ?_, ?_⟩
        · have hentry := mem_inNameOrder.mp he
          exact ascending_under (hascending e hentry) fun rest hrest =>
            ((hmem e hentry rest).mp hrest).ne_nil
        · refine (ascending_inNameOrder distinct).imp fun hlt x hx y hy => ?_
          obtain ⟨_, rfl, -⟩ := mem_under.mp hx
          obtain ⟨_, rfl, -⟩ := mem_under.mp hy
          exact List.cons_lt_cons_iff.mpr (Or.inl hlt)
      · simp only [List.mem_flatMap, mem_inNameOrder, mem_under]
        constructor
        · rintro ⟨e, he, rest, rfl, hrest⟩
          rw [hmem e he] at hrest
          exact reaches_cons.mpr ⟨e.2, hchild e he, hrest⟩
        · intro hreaches
          obtain ⟨name, rest, rfl⟩ := List.exists_cons_of_ne_nil hreaches.ne_nil
          obtain ⟨child, hlookup, hrest⟩ := reaches_cons.mp hreaches
          have he : (name, child) ∈ entries := mem_of_lookup hlookup
          rw [← hmem (name, child) he] at hrest
          exact ⟨(name, child), he, rest, rfl, hrest⟩
      · rw [walk_directory, List.map_flatMap]
        refine List.flatMap_congr fun e he => ?_
        have hentry := mem_inNameOrder.mp he
        rw [under, List.map_cons, entryAt_singleton (hchild e hentry)]
        congr 1
        split
        · rw [hwalk e hentry, List.map_map]
          refine List.map_congr_left fun rest hrest => ?_
          exact (entryAt_cons (hchild e hentry) ((hmem e hentry rest).mp hrest).ne_nil path).symm
        · rfl

namespace Alike

theorem kind_at? (h : n.Alike n') (names : List Text) :
    (n.at? names).isSome = (n'.at? names).isSome ∧
      (n.at? names).any Node.isDirectory = (n'.at? names).any Node.isDirectory := by
  have hat := h.at? names
  revert hat
  generalize n.at? names = x, n'.at? names = y
  intro hat
  cases hat with
  | none => exact ⟨rfl, rfl⟩
  | some halike => exact ⟨rfl, halike.isDirectory⟩

theorem reaches_iff (h : n.Alike n') : n.Reaches names ↔ n'.Reaches names := by
  have hsome := (h.kind_at? names).1
  constructor
  · exact fun ⟨hne, hfound, hplain⟩ => ⟨hne, hsome ▸ hfound, hplain⟩
  · exact fun ⟨hne, hfound, hplain⟩ => ⟨hne, hsome ▸ hfound, hplain⟩

/-- The order in which directories list their entries does not matter to a walk. -/
theorem walk_eq (h : n.Alike n') (path : Text) : n.walk path = n'.walk path := by
  obtain ⟨places, hascending, hmem, hwalk⟩ := walk_spec h.legal
  obtain ⟨places', hascending', hmem', hwalk'⟩ := walk_spec (h.relisted.legal h.legal)
  have hplaces : places = places' := by
    apply List.Pairwise.eq_of_mem_iff hascending hascending'
    intro names
    rw [hmem, hmem', h.reaches_iff]
  rw [hwalk, hwalk', ← hplaces]
  refine List.map_congr_left fun names _ => ?_
  rw [entryAt, entryAt, (h.kind_at? names).2]

end Alike

end Node

end WordingAudit
