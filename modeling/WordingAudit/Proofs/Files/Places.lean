import WordingAudit.Proofs.Files.Joining
import WordingAudit.Proofs.Traced

/-!
Places in a tree of files. From a directory that a path leads to, the path goes on name by name as
the directories below it do, whatever links it goes through before.
-/

namespace WordingAudit

namespace Node

/-- The node with a name in a directory. -/
def child? (n : Node) (name : Text) : Option Node :=
  match n with
  | directory entries => entries.lookup name
  | _ => none

/-- What stands where names lead from a node, through directories alone. -/
def at? : Node → List Text → Option Node
  | n, [] => some n
  | n, name :: rest => (n.child? name).bind fun child => child.at? rest

/-- A name that an entry of a directory can have. -/
def IsName (name : Text) : Prop :=
  name ≠ [] ∧ '/' ∉ name ∧ name ≠ ['.'] ∧ name ≠ Text.of ".."

instance (name : Text) : Decidable (IsName name) := inferInstanceAs (Decidable (_ ∧ _))

/-- A tree as it can be on a disk: the entries of each directory have names of their own. -/
inductive Legal : Node → Prop
  | file (content : List UInt8) : Legal (file content)
  | link (target : Text) : Legal (link target)
  | directory {entries : List (Text × Node)} (distinct : (entries.map (·.1)).Nodup)
      (names : ∀ e ∈ entries, IsName e.1) (below : ∀ e ∈ entries, Legal e.2) :
      Legal (directory entries)

theorem Legal.child {n child : Node} (h : n.Legal) {name : Text}
    (hchild : n.child? name = some child) : IsName name ∧ child.Legal := by
  cases h with
  | file => cases hchild
  | link => cases hchild
  | directory distinct names below =>
      have hmem := mem_of_lookup hchild
      exact ⟨names _ hmem, below _ hmem⟩

theorem Legal.isName_of_mem {n e : Node} (h : n.Legal) {names : List Text}
    (hnames : n.at? names = some e) : ∀ name ∈ names, IsName name := by
  induction names generalizing n with
  | nil => simp
  | cons name rest ih =>
      obtain ⟨child, hchild, hrest⟩ := Option.bind_eq_some_iff.mp hnames
      obtain ⟨hname, hlegal⟩ := h.child hchild
      exact List.forall_mem_cons.mpr ⟨hname, ih hlegal hrest⟩

theorem isDirectory_of_child? {n child : Node} {name : Text} (h : n.child? name = some child) :
    n.isDirectory = true := by
  cases n with
  | file => cases h
  | link => cases h
  | directory => rfl

end Node

namespace FileTree

open Node

variable {top : Node} {links : Nat} {p q r r' : Place} {name : Text}

/-- What is done with a link: its target is followed as long as links may be. -/
def followLink (top : Node) : Nat → Place → Text → List Text → Except FileProblem Place
  | 0, _, _, _ => .error .tooManyLinks
  | links + 1, p, target, rest =>
    if target.isEmpty then .error .notFound
    else follow top links (if Path.isAbsolute target then ⟨top, []⟩ else p) (steps target ++ rest)

theorem follow_eq (top : Node) (links : Nat) (p : Place) (names : List Text) :
    follow top links p names = followNames (followLink top links) p names := by
  cases links <;> rw [follow] <;> rfl

theorem Place.child?_of_isDirectory (h : p.node.isDirectory = true) (name : Text) :
    p.child? name = (p.node.child? name).elim (.error .notFound) .ok := by
  rw [Place.child?]
  cases hnode : p.node with
  | file => rw [hnode] at h; cases h
  | link => rw [hnode] at h; cases h
  | directory entries => rfl

/-- A step into a directory. -/
theorem follow_child {child : Node} (hname : IsName name) (hchild : q.node.child? name = some child)
    (hlink : ∀ target, child ≠ .link target) :
    follow top links q [name] = .ok ⟨child, q.node :: q.above⟩ := by
  obtain ⟨-, -, hdot, hdots⟩ := hname
  have hdirectory := isDirectory_of_child? hchild
  rw [follow_eq, followNames, hdirectory, if_neg (by simp), if_neg hdot, if_neg hdots,
    Place.child?_of_isDirectory hdirectory, hchild]
  cases child with
  | file content => rfl
  | link target => exact absurd rfl (hlink target)
  | directory entries => rfl

section Exchange

variable {R : Except FileProblem Place → Except FileProblem Place → Prop} {b b' : List Text}
  (herror : ∀ e, R (.error e) (.error e))
include herror

/-- The last names of a path may be exchanged if that is right from every place. -/
theorem followNames_exchange {onLink : Place → Text → List Text → Except FileProblem Place}
    (honLink : ∀ q target rest, R (onLink q target (rest ++ b)) (onLink q target (rest ++ b')))
    (hlast : ∀ q, R (followNames onLink q b) (followNames onLink q b')) (a : List Text)
    (p : Place) : R (followNames onLink p (a ++ b)) (followNames onLink p (a ++ b')) := by
  induction a generalizing p with
  | nil => exact hlast p
  | cons name rest ih =>
      rw [List.cons_append, List.cons_append, followNames, followNames]
      by_cases hdirectory : (!p.node.isDirectory) = true
      · rw [if_pos hdirectory, if_pos hdirectory]
        exact herror .notDirectory
      · rw [if_neg hdirectory, if_neg hdirectory]
        by_cases hdot : name = ['.']
        · rw [if_pos hdot, if_pos hdot]
          exact ih p
        · rw [if_neg hdot, if_neg hdot]
          by_cases hdots : name = Text.of ".."
          · rw [if_pos hdots, if_pos hdots]
            exact ih p.up
          · rw [if_neg hdots, if_neg hdots]
            cases p.child? name with
            | error e => exact herror e
            | ok node =>
                cases node with
                | file content => exact ih _
                | link target => exact honLink p target rest
                | directory entries => exact ih _

/-- The same when links are followed: whatever a link leads to, the last names come after it. -/
theorem follow_exchange
    (hlast : ∀ links q, R (follow top links q b) (follow top links q b')) (links : Nat) (p : Place)
    (a : List Text) : R (follow top links p (a ++ b)) (follow top links p (a ++ b')) := by
  induction links generalizing p a with
  | zero =>
      rw [follow_eq, follow_eq]
      refine followNames_exchange herror (fun q target rest => herror .tooManyLinks)
        (fun q => ?_) a p
      rw [← follow_eq, ← follow_eq]
      exact hlast 0 q
  | succ links ih =>
      rw [follow_eq, follow_eq]
      refine followNames_exchange herror (fun q target rest => ?_) (fun q => ?_) a p
      · rw [followLink, followLink]
        by_cases htarget : target.isEmpty = true
        · rw [if_pos htarget, if_pos htarget]
          exact herror .notFound
        · rw [if_neg htarget, if_neg htarget, ← List.append_assoc, ← List.append_assoc]
          exact ih _ _
      · rw [← follow_eq, ← follow_eq]
        exact hlast (links + 1) q

end Exchange

/-- What stands between the slashes of a path, nothing left out. -/
def pieces (path : Text) : List Text := (Text.splitAll path '/').filter fun s => !s.isEmpty

theorem pieces_append (before after : Text) :
    pieces (before ++ '/' :: after) = pieces before ++ pieces after := by
  rw [pieces, Text.splitAll_append, List.filter_append]
  rfl

/-- A path below another leads through the same names first. -/
theorem pieces_join {path : Text} (h : Path.isAbsolute path = false) (base : Text) :
    pieces (Path.join base path) = pieces base ++ pieces path := by
  rw [Path.join_of_relative h]
  by_cases hempty : base = []
  · rw [hempty]
    rfl
  · rcases Path.opening_cases hempty with ⟨hopening, front, rfl⟩ | ⟨hopening, -⟩
    · have hfront : pieces (front ++ ['/']) = pieces front :=
        (pieces_append front []).trans (List.append_nil _)
      rw [hopening, hfront, List.append_assoc]
      exact pieces_append front path
    · rw [hopening, List.append_assoc]
      exact pieces_append base path

theorem steps_eq (path : Text) :
    steps path = pieces path ++ if Text.endsWith path ['/'] then [['.']] else [] := by
  rw [steps]
  split
  · rfl
  · exact (List.append_nil _).symm

theorem steps_join {path : Text} (h : Path.isAbsolute path = false) (hne : path ≠ [])
    (base : Text) : steps (Path.join base path) = pieces base ++ steps path := by
  rw [steps_eq, steps_eq, pieces_join h, List.append_assoc, Path.join_of_relative h,
    Text.endsWith_append hne]

theorem isAbsolute_of_isName (h : IsName name) : Path.isAbsolute name = false := by
  rw [← Bool.not_eq_true, Path.isAbsolute_iff]
  exact fun hslash => h.2.1 (hslash.subset List.mem_cons_self)

theorem pieces_of_isName (h : IsName name) : pieces name = [name] := by
  rw [pieces, Text.splitAll_of_not_mem h.2.1, List.filter_cons_of_pos (by simpa using h.1)]
  rfl

theorem steps_of_isName (h : IsName name) : steps name = [name] := by
  have hend : ¬Text.endsWith name ['/'] = true := by
    rw [Text.endsWith_iff]
    exact fun hslash => h.2.1 (hslash.subset List.mem_cons_self)
  rw [steps_eq, pieces_of_isName h, if_neg hend]
  rfl

theorem pieces_foldl_join (root : Text) {names : List Text} (hnames : ∀ name ∈ names, IsName name) :
    pieces (names.foldl Path.join root) = pieces root ++ names := by
  induction names generalizing root with
  | nil => exact (List.append_nil _).symm
  | cons name rest ih =>
      obtain ⟨hname, hrest⟩ := List.forall_mem_cons.mp hnames
      rw [List.foldl_cons, ih _ hrest, pieces_join (isAbsolute_of_isName hname),
        pieces_of_isName hname, List.append_assoc]
      rfl

/-- Different names lead on to different paths. -/
theorem foldl_join_injective {root : Text} {names names' : List Text}
    (hnames : ∀ name ∈ names, IsName name) (hnames' : ∀ name ∈ names', IsName name)
    (h : names.foldl Path.join root = names'.foldl Path.join root) : names = names' := by
  have heq : pieces root ++ names = pieces root ++ names' := by
    rw [← pieces_foldl_join root hnames, ← pieces_foldl_join root hnames', h]
  exact List.append_cancel_left heq

variable {t : FileTree} {root : Text} {node : Node}

/-- Where a path is followed from. -/
def start (t : FileTree) (path : Text) : Except FileProblem Place :=
  if Path.isAbsolute path then .ok ⟨t.top, []⟩ else t.home

theorem find_eq (hroot : root ≠ []) :
    t.find root = (t.start root).bind fun p =>
      (follow t.top maxLinks p (steps root)).map fun place => place.node := by
  rw [find, if_neg (by simpa using hroot), start]
  by_cases habsolute : Path.isAbsolute root = true
  · rw [if_pos habsolute, if_pos habsolute]
    rfl
  · rw [if_neg habsolute, if_neg habsolute]
    rfl

theorem find_eq_ok : t.find root = .ok node ↔
    root ≠ [] ∧ ∃ p, t.start root = .ok p ∧
      ∃ place, follow t.top maxLinks p (steps root) = .ok place ∧ place.node = node := by
  by_cases hroot : root = []
  · rw [hroot]
    exact ⟨nofun, fun h => absurd rfl h.1⟩
  · simp only [find_eq hroot, Result.bind_eq_ok, Result.map_eq_ok, ne_eq, hroot, not_false_eq_true,
      true_and]

/-- A path leads through its pieces; a slash at its end asks for a directory and no more. -/
theorem follow_pieces {place : Place} (h : follow top links p (steps root) = .ok place) :
    follow top links p (pieces root) = .ok place := by
  rw [steps_eq] at h
  split at h
  · rw [← List.append_nil (pieces root)]
    refine follow_exchange (R := fun x y => x = .ok place → y = .ok place) (fun e => id)
      (fun links q hq => ?_) links p (pieces root) h
    rw [follow_eq] at hq ⊢
    rw [followNames] at hq
    split at hq
    · cases hq
    · rwa [if_pos rfl] at hq
  · rwa [List.append_nil] at h

theorem find_join {child : Node} (h : t.find root = .ok node) (hname : IsName name)
    (hchild : node.child? name = some child) (hlink : ∀ target, child ≠ .link target) :
    t.find (Path.join root name) = .ok child := by
  obtain ⟨hroot, p, hstart, place, hplace, rfl⟩ := find_eq_ok.mp h
  have hrelative := isAbsolute_of_isName hname
  rw [start, ← Path.isAbsolute_join hrelative] at hstart
  refine find_eq_ok.mpr ⟨Path.join_ne_nil hname.1 root, p, hstart,
    ⟨child, place.node :: place.above⟩, ?_, rfl⟩
  have hpieces := follow_pieces hplace
  rw [← List.append_nil (pieces root)] at hpieces
  rw [steps_join hrelative hname.1, steps_of_isName hname]
  refine follow_exchange (R := fun x y => x = .ok place → y = .ok ⟨child, _⟩) (fun e h => nomatch h)
    (fun links q hq => ?_) maxLinks p (pieces root) hpieces
  rw [follow_eq] at hq
  cases Except.ok.inj hq
  exact follow_child hname hchild hlink

/-- From what a path leads to, the path goes on through the directories below. -/
theorem find_below (hlegal : node.Legal) (h : t.find root = .ok node) {names : List Text} {e : Node}
    (hnames : node.at? names = some e) (hlink : ∀ target, e ≠ .link target) :
    t.find (names.foldl Path.join root) = .ok e := by
  induction names generalizing root node with
  | nil =>
      cases hnames
      exact h
  | cons name rest ih =>
      rw [at?, Option.bind_eq_some_iff] at hnames
      obtain ⟨child, hchild, hrest⟩ := hnames
      obtain ⟨hname, hchildLegal⟩ := hlegal.child hchild
      refine ih hchildLegal (find_join h hname hchild fun target htarget => ?_) hrest
      cases rest with
      | nil =>
          cases hrest
          exact hlink target htarget
      | cons => rw [htarget] at hrest; cases hrest

/-- A file below a directory is the one that the path through the directory reads. -/
theorem read_below (hlegal : node.Legal) (h : t.find root = .ok node) {names : List Text}
    {content : List UInt8} (hnames : node.at? names = some (.file content)) :
    t.read (names.foldl Path.join root) = .ok content := by
  rw [read, find_below hlegal h hnames nofun]
  rfl

end FileTree

end WordingAudit
