import WordingAudit.Proofs.Files.Parents

/-!
A tree without links that stands in some directory. A path that goes down from that directory leads
to what the tree itself holds there, whatever led to the directory.
-/

namespace WordingAudit

namespace Node

/-- A tree that holds no links. -/
inductive LinkFree : Node → Prop
  | file (content : List UInt8) : LinkFree (file content)
  | directory {entries : List (Text × Node)} (below : ∀ e ∈ entries, LinkFree e.2) :
      LinkFree (directory entries)

variable {n e : Node} {name : Text} {names : List Text}

theorem LinkFree.child {child : Node} (h : n.LinkFree) (hchild : n.child? name = some child) :
    child.LinkFree := by
  cases h with
  | file => cases hchild
  | directory below => exact below _ (mem_of_lookup hchild)

theorem LinkFree.ne_link (h : n.LinkFree) (target : Text) : n ≠ link target := by
  rintro rfl
  cases h

/-- What names lead to from a node, through directories and dots. -/
def resolve : Node → List Text → Except FileProblem Node
  | n, [] => .ok n
  | n, name :: rest =>
    if !n.isDirectory then .error .notDirectory
    else if name = ['.'] then n.resolve rest
    else (n.child? name).elim (.error .notFound) fun child => child.resolve rest

theorem resolve_of_at? (hnames : ∀ name ∈ names, IsName name) (h : n.at? names = some e) :
    n.resolve names = .ok e := by
  induction names generalizing n with
  | nil =>
      cases h
      rfl
  | cons name rest ih =>
      obtain ⟨hname, hrest⟩ := List.forall_mem_cons.mp hnames
      obtain ⟨child, hchild, he⟩ := Option.bind_eq_some_iff.mp h
      rw [resolve, if_neg (by simp [isDirectory_of_child? hchild]), if_neg hname.2.2.1, hchild]
      exact ih hrest he

/-- What holds of a node, and of what stands in it, holds of what names lead to. -/
theorem resolve_keeps {P : Node → Prop}
    (hchild : ∀ (n : Node) (name : Text) (child : Node), P n → n.child? name = some child → P child)
    (hn : P n) (h : n.resolve names = .ok e) : P e := by
  induction names generalizing n with
  | nil =>
      cases h
      exact hn
  | cons name rest ih =>
      rw [resolve] at h
      split at h
      · cases h
      · split at h
        · exact ih hn h
        · cases hlookup : n.child? name with
          | none => rw [hlookup] at h; cases h
          | some child =>
              rw [hlookup] at h
              exact ih (hchild n name child hn hlookup) h

theorem Legal.resolve (hlegal : n.Legal) (h : n.resolve names = .ok e) : e.Legal :=
  resolve_keeps (fun _ _ _ hn hchild => (hn.child hchild).2) hlegal h

theorem LinkFree.resolve (hfree : n.LinkFree) (h : n.resolve names = .ok e) : e.LinkFree :=
  resolve_keeps (fun _ _ _ hn hchild => hn.child hchild) hfree h

end Node

namespace Path

/-- A path to something below the directory that it is taken relative to: it is not empty, does not
begin at the root and does not go up. -/
structure Inside (path : Text) : Prop where
  ne_nil : path ≠ []
  relative : isAbsolute path = false
  noUp : Text.of ".." ∉ Text.splitAll path '/'

theorem Inside.of_isName {name : Text} (h : Node.IsName name) : Inside name where
  ne_nil := h.1
  relative := FileTree.isAbsolute_of_isName h
  noUp := by
    rw [Text.splitAll_of_not_mem h.2.1, List.mem_singleton]
    exact Ne.symm h.2.2.2

end Path

namespace FileTree

open Node (IsName)

variable {t : FileTree} {top tree : Node} {dir path last : Text} {names : List Text}

theorem noUp_steps (h : Path.Inside path) : Text.of ".." ∉ steps path := by
  have hdot : Text.of ".." ∉ [['.']] := by decide
  rw [steps_eq, List.mem_append, not_or]
  refine ⟨fun hmem => h.noUp (List.mem_of_mem_filter hmem), ?_⟩
  split
  · exact hdot
  · exact List.not_mem_nil

/-- In a tree without links names lead on as they do in the tree alone. -/
theorem followNames_resolve {onLink : Place → Text → List Text → Except FileProblem Place}
    {p : Place} (hfree : p.node.LinkFree) (hnames : Text.of ".." ∉ names) :
    (followNames onLink p names).map Place.node = p.node.resolve names := by
  induction names generalizing p with
  | nil => rfl
  | cons name rest ih =>
      obtain ⟨hname, hrest⟩ := not_or.mp (List.mem_cons.not.mp hnames)
      rw [followNames, Node.resolve]
      by_cases hdirectory : (!p.node.isDirectory) = true
      · rw [if_pos hdirectory, if_pos hdirectory]
        rfl
      · rw [if_neg hdirectory, if_neg hdirectory]
        by_cases hdot : name = ['.']
        · rw [if_pos hdot, if_pos hdot]
          exact ih hfree hrest
        · rw [if_neg hdot, if_neg hdot, if_neg (Ne.symm hname),
            Place.child?_of_isDirectory (by simpa using hdirectory)]
          cases hchild : p.node.child? name with
          | none => rfl
          | some child =>
              have hchildFree := hfree.child hchild
              cases child with
              | file content => exact ih hchildFree hrest
              | link target => exact absurd rfl (hchildFree.ne_link target)
              | directory entries => exact ih hchildFree hrest

/-- A tree stands in a directory. The directory is written without two slashes in a row; when it is
the one in which work is done, it may be left out. -/
structure Placed (t : FileTree) (dir : Text) (tree : Node) : Prop where
  plain : ¬Text.of "//" <:+: dir
  leads : if dir = [] then t.home.map Place.node = .ok tree else t.find dir = .ok tree

theorem Placed.exists_place (h : t.Placed dir tree) :
    ∃ p place, t.start dir = .ok p ∧ follow t.top maxLinks p (pieces dir) = .ok place ∧
      place.node = tree := by
  have hleads := h.leads
  by_cases hdir : dir = []
  · rw [if_pos hdir] at hleads
    obtain ⟨p, hp, hnode⟩ := Result.map_eq_ok.mp hleads
    refine ⟨p, p, ?_, ?_, hnode⟩
    · rw [hdir]
      exact hp
    · rw [hdir, follow_eq]
      rfl
  · rw [if_neg hdir] at hleads
    obtain ⟨-, p, hp, place, hplace, hnode⟩ := find_eq_ok.mp hleads
    exact ⟨p, place, hp, follow_pieces hplace, hnode⟩

theorem isAbsolute_foldl_join (hnames : ∀ name ∈ names, IsName name) (dir : Text) :
    Path.isAbsolute (names.foldl Path.join dir) = Path.isAbsolute dir := by
  induction names generalizing dir with
  | nil => rfl
  | cons name rest ih =>
      obtain ⟨hname, hrest⟩ := List.forall_mem_cons.mp hnames
      rw [List.foldl_cons, ih hrest, Path.isAbsolute_join (isAbsolute_of_isName hname)]

section Placed

variable (h : t.Placed dir tree) (hfree : tree.LinkFree) (hnames : ∀ name ∈ names, IsName name)
include h hfree hnames

/-- A path that goes down from where a tree stands leads to what the tree holds there. -/
theorem find_inside (hpath : Path.Inside path) :
    t.find (Path.join (names.foldl Path.join dir) path) = tree.resolve (names ++ steps path) := by
  obtain ⟨p, place, hstart, hplace, rfl⟩ := h.exists_place
  have hup : Text.of ".." ∉ names ++ steps path := by
    rw [List.mem_append, not_or]
    exact ⟨fun hmem => (hnames _ hmem).2.2.2 rfl, noUp_steps hpath⟩
  rw [start, ← isAbsolute_foldl_join hnames dir, ← Path.isAbsolute_join hpath.relative] at hstart
  rw [← List.append_nil (pieces dir)] at hplace
  rw [find_eq (Path.join_ne_nil hpath.ne_nil _), start, hstart,
    steps_join hpath.relative hpath.ne_nil, pieces_foldl_join dir hnames, List.append_assoc]
  -- from wherever the directory leads to, whatever links were followed on the way
  refine follow_exchange
    (R := fun x y => x = .ok place → y.map Place.node = place.node.resolve (names ++ steps path))
    (fun e he => ?_) (fun links q hq => ?_) maxLinks p (pieces dir) hplace
  · cases he
  · rw [follow_eq] at hq ⊢
    cases Except.ok.inj hq
    exact followNames_resolve hfree hup

/-- The same for a path relative to the directory of a file in the tree. -/
theorem find_beside (hlast : IsName last) (hpath : Path.Inside path) :
    t.find (Path.join (Path.parent (Path.join (names.foldl Path.join dir) last)) path) =
      tree.resolve (names ++ steps path) := by
  rw [find_join_parent hlast hpath.relative hpath.ne_nil, find_inside h hfree hnames hpath]

end Placed

end FileTree

end WordingAudit
