import Mathlib.Data.List.Forall2
import WordingAudit.Proofs.Files.Places

/-!
The order in which directories list their entries. Trees that differ in nothing else have the same
at every place, and a path leads to the same in each of them.
-/

namespace WordingAudit

namespace Result

variable {α β γ δ ε : Type}

/-- The same error, or results that a relation holds between. -/
inductive Related (R : α → β → Prop) : Except ε α → Except ε β → Prop
  | error (e : ε) : Related R (.error e) (.error e)
  | ok {a : α} {b : β} (h : R a b) : Related R (.ok a) (.ok b)

theorem Related.bind {R : α → β → Prop} {S : γ → δ → Prop} {x : Except ε α} {y : Except ε β}
    (h : Related R x y) {f : α → Except ε γ} {g : β → Except ε δ}
    (hnext : ∀ a b, R a b → Related S (f a) (g b)) : Related S (x.bind f) (y.bind g) := by
  cases h with
  | error e => exact .error e
  | ok hab => exact hnext _ _ hab

theorem Related.ofOption {R : α → β → Prop} {x : Option α} {y : Option β} (h : Option.Rel R x y)
    (e : ε) : Related R (x.elim (.error e) .ok) (y.elim (.error e) .ok) := by
  cases h with
  | none => exact .error e
  | some hab => exact .ok hab

end Result

namespace Node

/-- The same tree, but for the order in which its directories list their entries. -/
inductive Relisted : Node → Node → Prop
  | refl (n : Node) : Relisted n n
  | permute {entries entries' : List (Text × Node)} (h : entries.Perm entries') :
      Relisted (directory entries) (directory entries')
  | inside (before after : List (Text × Node)) (name : Text) {n n' : Node} (h : Relisted n n') :
      Relisted (directory (before ++ (name, n) :: after))
        (directory (before ++ (name, n') :: after))
  | trans {n m k : Node} (first : Relisted n m) (second : Relisted m k) : Relisted n k

variable {n n' : Node} {name : Text}

namespace Relisted

theorem legal (h : Relisted n n') (hlegal : n.Legal) : n'.Legal := by
  induction h with
  | refl => exact hlegal
  | permute h =>
      cases hlegal with
      | directory distinct names below =>
          have hmem : ∀ e, e ∈ _ → e ∈ _ := fun e he => h.mem_iff.mpr he
          exact .directory ((h.map _).nodup_iff.mp distinct) (fun e he => names e (hmem e he))
            fun e he => below e (hmem e he)
  | inside before after name h ih =>
      cases hlegal with
      | directory distinct names below =>
          refine .directory ?_ ?_ ?_
          · simpa using distinct
          · simp only [List.forall_mem_append, List.forall_mem_cons] at names ⊢
            exact names
          · simp only [List.forall_mem_append, List.forall_mem_cons] at below ⊢
            exact ⟨below.1, ih below.2.1, below.2.2⟩
  | trans _ _ ih ih' => exact ih' (ih hlegal)

/-- Only directories can be listed in another order. -/
theorem directories_or_eq (h : Relisted n n') :
    (∃ entries entries', n = directory entries ∧ n' = directory entries') ∨ n = n' := by
  induction h with
  | refl => exact Or.inr rfl
  | permute => exact Or.inl ⟨_, _, rfl, rfl⟩
  | inside => exact Or.inl ⟨_, _, rfl, rfl⟩
  | trans _ _ ih ih' =>
      rcases ih with ⟨entries, entries', hn, hm⟩ | rfl
      · rcases ih' with ⟨_, others, -, hk⟩ | rfl
        · exact Or.inl ⟨entries, others, hn, hk⟩
        · exact Or.inl ⟨entries, entries', hn, hm⟩
      · exact ih'

theorem rel_refl (x : Option Node) : Option.Rel Relisted x x := by
  cases x with
  | none => exact .none
  | some child => exact .some (.refl child)

theorem child? (h : Relisted n n') (hlegal : n.Legal) (name : Text) :
    Option.Rel Relisted (n.child? name) (n'.child? name) := by
  induction h with
  | refl n => exact rel_refl (n.child? name)
  | @permute entries entries' h =>
      cases hlegal with
      | directory distinct =>
          have hsame : entries.lookup name = entries'.lookup name := by
            ext child
            rw [lookup_eq_some_iff_mem distinct, h.mem_iff,
              lookup_eq_some_iff_mem ((h.map _).nodup_iff.mp distinct)]
          rw [Node.child?, Node.child?, hsame]
          exact rel_refl (entries'.lookup name)
  | inside before after other h =>
      rw [Node.child?, Node.child?, List.lookup_append, List.lookup_append]
      cases before.lookup name with
      | some child => exact rel_refl (some child)
      | none =>
          rw [Option.none_or, Option.none_or, List.lookup_cons, List.lookup_cons]
          cases name == other with
          | true => exact .some h
          | false => exact rel_refl (after.lookup name)
  | trans first second ih ih' =>
      have hfirst := ih hlegal
      have hsecond := ih' (first.legal hlegal)
      revert hfirst hsecond
      generalize Node.child? _ name = x, Node.child? _ name = y, Node.child? _ name = z
      intro hfirst hsecond
      cases hfirst with
      | none => exact hsecond
      | some h =>
          cases hsecond with
          | some h' => exact .some (.trans h h')

end Relisted

/-- Nodes of legal trees that are the same but for the order of listing. -/
structure Alike (n n' : Node) : Prop where
  legal : n.Legal
  relisted : n.Relisted n'

namespace Alike

theorem isDirectory (h : n.Alike n') : n.isDirectory = n'.isDirectory := by
  rcases h.relisted.directories_or_eq with ⟨_, _, rfl, rfl⟩ | rfl
  · rfl
  · rfl

theorem child? (h : n.Alike n') (name : Text) :
    Option.Rel Alike (n.child? name) (n'.child? name) := by
  have hlegal : ∀ child, n.child? name = some child → child.Legal :=
    fun child hchild => (h.legal.child hchild).2
  have hrel := h.relisted.child? h.legal name
  revert hlegal hrel
  generalize n.child? name = x, n'.child? name = y
  intro hlegal hrel
  cases hrel with
  | none => exact .none
  | some hchild => exact .some ⟨hlegal _ rfl, hchild⟩

/-- The same stands at every place, but for the order of listing. -/
theorem at? (h : n.Alike n') (names : List Text) :
    Option.Rel Alike (n.at? names) (n'.at? names) := by
  induction names generalizing n n' with
  | nil => exact .some h
  | cons name rest ih =>
      have hrel := h.child? name
      rw [Node.at?, Node.at?]
      revert hrel
      generalize n.child? name = x, n'.child? name = y
      intro hrel
      cases hrel with
      | none => exact .none
      | some hchild => exact ih hchild

end Alike

end Node

namespace FileTree

open Result (Related)

namespace Place

/-- Places in trees that are the same but for the order of listing, with the same way up. -/
structure Alike (p p' : Place) : Prop where
  node : p.node.Alike p'.node
  above : List.Forall₂ Node.Alike p.above p'.above

variable {p p' : Place}

theorem Alike.up (h : p.Alike p') : p.up.Alike p'.up := by
  obtain ⟨n, above⟩ := p
  obtain ⟨n', above'⟩ := p'
  cases h.above with
  | nil => exact h
  | cons hd hrest => exact ⟨hd, hrest⟩

end Place

variable {top top' : Node} {p p' : Place}

theorem followNames_alike {onLink onLink' : Place → Text → List Text → Except FileProblem Place}
    (honLink : ∀ (q q' : Place) target rest, q.Alike q' →
      Related Place.Alike (onLink q target rest) (onLink' q' target rest))
    (h : p.Alike p') (names : List Text) :
    Related Place.Alike (followNames onLink p names) (followNames onLink' p' names) := by
  induction names generalizing p p' with
  | nil => exact .ok h
  | cons name rest ih =>
      -- both sides make the same tests, and after them take steps that are alike
      rw [followNames, followNames, ← h.node.isDirectory]
      by_cases hdirectory : p.node.isDirectory = true
      · have hchild := Related.ofOption (h.node.child? name) FileProblem.notFound
        rw [← Place.child?_of_isDirectory hdirectory,
          ← Place.child?_of_isDirectory (h.node.isDirectory ▸ hdirectory)] at hchild
        simp only [hdirectory, Bool.not_true, Bool.false_eq_true, if_false]
        by_cases hdot : name = ['.']
        · rw [if_pos hdot, if_pos hdot]
          exact ih h
        · rw [if_neg hdot, if_neg hdot]
          by_cases hdots : name = Text.of ".."
          · rw [if_pos hdots, if_pos hdots]
            exact ih h.up
          · rw [if_neg hdots, if_neg hdots]
            revert hchild
            generalize p.child? name = x, p'.child? name = y
            intro hchild
            cases hchild with
            | error e => exact .error e
            | @ok child child' hchild =>
                rcases hchild.relisted.directories_or_eq with ⟨_, _, rfl, rfl⟩ | rfl
                · exact ih ⟨hchild, .cons h.node h.above⟩
                · cases child with
                  | link target => exact honLink p p' target rest h
                  | file content => exact ih ⟨hchild, .cons h.node h.above⟩
                  | directory entries => exact ih ⟨hchild, .cons h.node h.above⟩
      · simp only [hdirectory, Bool.not_false, if_true]
        exact .error FileProblem.notDirectory

theorem follow_alike (htop : top.Alike top') (links : Nat) (h : p.Alike p') (names : List Text) :
    Related Place.Alike (follow top links p names) (follow top' links p' names) := by
  induction links generalizing p p' names with
  | zero =>
      rw [follow_eq, follow_eq]
      exact followNames_alike (fun _ _ _ _ _ => .error FileProblem.tooManyLinks) h names
  | succ links ih =>
      rw [follow_eq, follow_eq]
      refine followNames_alike (fun q q' target rest hq => ?_) h names
      rw [followLink, followLink]
      by_cases htarget : target.isEmpty = true
      · rw [if_pos htarget, if_pos htarget]
        exact .error FileProblem.notFound
      · rw [if_neg htarget, if_neg htarget]
        by_cases habsolute : Path.isAbsolute target = true
        · rw [if_pos habsolute, if_pos habsolute]
          exact ih ⟨htop, .nil⟩ _
        · rw [if_neg habsolute, if_neg habsolute]
          exact ih hq _

/-- The same tree with the same directory to work in, but for the order of listing. -/
structure Relisted (t t' : FileTree) : Prop where
  top : t.top.Relisted t'.top
  workingDirectory : t.workingDirectory = t'.workingDirectory

variable {t t' : FileTree}

/-- A path leads to the same, in whatever order directories list their entries. -/
theorem find_alike (h : t.Relisted t') (hlegal : t.top.Legal) (path : Text) :
    Related Node.Alike (t.find path) (t'.find path) := by
  have htop : t.top.Alike t'.top := ⟨hlegal, h.top⟩
  have hplace : Place.Alike ⟨t.top, []⟩ ⟨t'.top, []⟩ := ⟨htop, .nil⟩
  by_cases hpath : path = []
  · rw [hpath]
    exact .error FileProblem.notFound
  · have hstart : Related Place.Alike (t.start path) (t'.start path) := by
      rw [start, start]
      by_cases habsolute : Path.isAbsolute path = true
      · rw [if_pos habsolute, if_pos habsolute]
        exact .ok hplace
      · rw [if_neg habsolute, if_neg habsolute, home, home, h.workingDirectory]
        exact follow_alike htop maxLinks hplace _
    rw [find_eq hpath, find_eq hpath]
    refine hstart.bind fun p p' hp => ?_
    exact (follow_alike htop maxLinks hp (steps path)).bind fun q q' hq => .ok hq.node

theorem legal_of_find (hlegal : t.top.Legal) {path : Text} {node : Node}
    (h : t.find path = .ok node) : node.Legal := by
  have hsame := find_alike ⟨.refl t.top, rfl⟩ hlegal path
  rw [h] at hsame
  cases hsame with
  | ok halike => exact halike.legal

theorem read_relisted (h : t.Relisted t') (hlegal : t.top.Legal) (path : Text) :
    t.read path = t'.read path := by
  have hfind := find_alike h hlegal path
  rw [read, read]
  revert hfind
  generalize t.find path = x, t'.find path = y
  intro hfind
  cases hfind with
  | error e => rfl
  | @ok node node' hnode =>
      rcases hnode.relisted.directories_or_eq with ⟨_, _, rfl, rfl⟩ | rfl
      · rfl
      · rfl

end FileTree

end WordingAudit
