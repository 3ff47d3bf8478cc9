import Mathlib.Data.List.TakeWhile
import WordingAudit.Proofs.Files.Places

/-!
The directory of a path as it is written in the path. It leads where the path leads without its last
name; all that it may lack are dots at the end, which lead nowhere.
-/

namespace WordingAudit

namespace Path

open FileTree (pieces pieces_append pieces_join pieces_of_isName)
open Node (IsName)

variable {path last : Text}

theorem isIdle_iff {s : Text} : isIdle s = true ↔ s = [] ∨ s = ['.'] := by
  simp [isIdle]

/-- What is taken from the end leads nowhere. -/
theorem trimIdle_append (segments : List Text) :
    ∃ idle, segments = trimIdle segments ++ idle ∧ ∀ s ∈ idle, isIdle s = true := by
  refine ⟨(segments.reverse.takeWhile isIdle).reverse, ?_, fun s hs => ?_⟩
  · rw [trimIdle, ← List.reverse_append, List.takeWhile_append_dropWhile, List.reverse_reverse]
  · exact List.mem_takeWhile_imp (List.mem_reverse.mp hs)

theorem trimIdle_concat {s : Text} (h : isIdle s = false) (segments : List Text) :
    trimIdle (segments ++ [s]) = segments ++ [s] := by
  rw [trimIdle, List.reverse_append, List.reverse_singleton, List.singleton_append,
    List.dropWhile_cons_of_neg (by simp [h]), List.reverse_cons, List.reverse_reverse]

/-- A path without what stands in front of its segments. -/
def unanchored (path : Text) : Text := path.drop (anchor path).length

theorem length_anchor_le (path : Text) : (anchor path).length ≤ 1 := by
  fun_cases anchor path <;> simp

theorem anchor_append_unanchored (path : Text) : anchor path ++ unanchored path = path := by
  rw [unanchored]
  fun_cases anchor path <;> rfl

theorem pieces_slash (rest : Text) : pieces ('/' :: rest) = pieces rest := pieces_append [] rest

/-- What stands in front of the segments leads on in the same way to fewer of them. -/
theorem pieces_anchor {rest : Text} (h : rest <+: unanchored path) :
    pieces (anchor path ++ rest) = pieces (anchor path) ++ pieces rest := by
  rw [unanchored] at h
  fun_cases anchor path with
  | case1 below => exact pieces_slash rest
  | case2 =>
      rw [List.prefix_nil.mp h]
      rfl
  | case3 below =>
      rcases List.prefix_cons_iff.mp h with rfl | ⟨more, rfl, -⟩
      · rfl
      · rw [pieces_slash]
        exact pieces_append ['.'] more
  | case4 => rfl

theorem pieces_join_segments {segments : List Text} (h : ∀ s ∈ segments, '/' ∉ s) :
    pieces (Text.join ['/'] segments) = segments.filter fun s => !s.isEmpty := by
  by_cases hnil : segments = []
  · rw [hnil]
    rfl
  · rw [pieces, Text.splitAll_join hnil h]

theorem unanchored_of_isName (h : IsName last) : unanchored last = last := by
  rw [unanchored]
  fun_cases anchor last with
  | case1 below => exact absurd List.mem_cons_self h.2.1
  | case2 => exact absurd rfl h.2.2.1
  | case3 below => exact absurd (List.mem_cons_of_mem _ List.mem_cons_self) h.2.1
  | case4 => rfl

/-- The last segment of a path that ends in a name is the name. -/
theorem exists_segments (h : IsName last) (base : Text) :
    ∃ segments, Text.splitAll (unanchored (join base last)) '/' = segments ++ [last] := by
  have halone : Text.splitAll last '/' = [] ++ [last] := Text.splitAll_of_not_mem h.2.1
  have hbelow : ∀ before, Text.splitAll (before ++ '/' :: last) '/' =
      Text.splitAll before '/' ++ [last] := fun before => by
    rw [Text.splitAll_append, halone, List.nil_append]
  rw [join_of_relative (FileTree.isAbsolute_of_isName h)]
  rcases opening_eq_nil_or base with hopening | ⟨before, hopening⟩
  · rw [hopening, List.nil_append, unanchored_of_isName h]
    exact ⟨[], halone⟩
  · rw [← hopening, List.append_assoc, List.singleton_append]
    by_cases hbefore : before = []
    · rw [hbefore]
      exact ⟨[], halone⟩
    · have hlength : (anchor (before ++ '/' :: last)).length ≤ before.length :=
        (length_anchor_le _).trans (List.length_pos_iff.mpr hbefore)
      rw [unanchored, List.drop_append_of_le_length hlength]
      exact ⟨_, hbelow _⟩

/-- The directory of a path that ends in a name. -/
theorem parent_join (h : IsName last) (base : Text) :
    ∃ kept idle, unanchored (join base last) = Text.join ['/'] (kept ++ (idle ++ [last])) ∧
      (∀ s ∈ kept ++ idle, '/' ∉ s) ∧ (∀ s ∈ idle, isIdle s = true) ∧
      parent (join base last) = anchor (join base last) ++ Text.join ['/'] kept := by
  obtain ⟨segments, hsegments⟩ := exists_segments h base
  obtain ⟨idle, hkept, hidle⟩ := trimIdle_append segments
  have hname : isIdle last = false := by
    rw [← Bool.not_eq_true, isIdle_iff]
    exact fun hidle => hidle.elim h.1 h.2.2.1
  refine ⟨trimIdle segments, idle, ?_, ?_, hidle, ?_⟩
  · rw [← List.append_assoc, ← hkept, ← hsegments, Text.join_splitAll]
  · rw [← hkept]
    intro s hs
    have hmem : s ∈ Text.splitAll (unanchored (join base last)) '/' :=
      hsegments ▸ List.mem_append_left _ hs
    exact Text.not_mem_of_mem_splitAll hmem
  · rw [parent, ← unanchored, hsegments, trimIdle_concat hname, if_neg (by simp),
      List.dropLast_concat]

theorem parent_isPrefix (h : IsName last) (base : Text) :
    parent (join base last) <+: join base last := by
  obtain ⟨kept, idle, hrest, -, -, hparent⟩ := parent_join h base
  rw [hparent]
  conv_rhs => rw [← anchor_append_unanchored (join base last), hrest]
  exact (List.prefix_append_right_inj _).mpr (Text.prefix_join _ _ _)

theorem isAbsolute_parent (h : IsName last) (base : Text) :
    isAbsolute (parent (join base last)) = isAbsolute base := by
  rw [← isAbsolute_join (FileTree.isAbsolute_of_isName h) base, Bool.eq_iff_iff, isAbsolute_iff,
    isAbsolute_iff]
  refine ⟨fun hslash => hslash.trans (parent_isPrefix h base), fun ⟨rest, hrest⟩ => ?_⟩
  obtain ⟨kept, idle, -, -, -, hparent⟩ := parent_join h base
  rw [hparent, ← hrest]
  exact List.prefix_append _ _

/-- A directory leads through the names of a path that ends in a name, all but the last; what it
lacks are dots. -/
theorem pieces_parent (h : IsName last) (base : Text) :
    ∃ dots, pieces base = pieces (parent (join base last)) ++ dots ∧ ∀ s ∈ dots, s = ['.'] := by
  obtain ⟨kept, idle, hrest, hslash, hidle, hparent⟩ := parent_join h base
  obtain ⟨hkept, hidleSlash⟩ := List.forall_mem_append.mp hslash
  refine ⟨idle.filter fun s => !s.isEmpty, ?_, fun s hs => ?_⟩
  · have hbegins : Text.join ['/'] kept <+: unanchored (join base last) :=
      hrest ▸ Text.prefix_join _ _ _
    have hlast : pieces (join base last) = pieces base ++ [last] := by
      rw [pieces_join (FileTree.isAbsolute_of_isName h), pieces_of_isName h]
    have hnames : ∀ s ∈ kept ++ (idle ++ [last]), '/' ∉ s := by
      rw [List.forall_mem_append, List.forall_mem_append, List.forall_mem_singleton]
      exact ⟨hkept, hidleSlash, h.2.1⟩
    have hpieces := pieces_anchor (List.prefix_refl (unanchored (join base last)))
    rw [anchor_append_unanchored, hlast, hrest, pieces_join_segments hnames, List.filter_append,
      List.filter_append, List.filter_cons_of_pos (by simpa using h.1), List.filter_nil,
      ← List.append_assoc, ← List.append_assoc] at hpieces
    rw [List.append_cancel_right hpieces, hparent, pieces_anchor hbegins,
      pieces_join_segments hkept]
  · obtain ⟨hmem, hfull⟩ := List.mem_filter.mp hs
    exact (isIdle_iff.mp (hidle s hmem)).resolve_left (by simpa using hfull)

end Path

namespace FileTree

open Node (IsName)

variable {t : FileTree} {top : Node} {path last : Text}

theorem steps_ne_nil (h : Path.isAbsolute path = false) (hne : path ≠ []) : steps path ≠ [] := by
  obtain ⟨c, rest, rfl⟩ := List.exists_cons_of_ne_nil hne
  have hc : c ≠ '/' := by
    rintro rfl
    cases h
  obtain ⟨piece, others, -, hsplit⟩ := Text.splitAll_cons_of_ne hc rest
  rw [steps_eq, pieces, hsplit, List.filter_cons_of_pos rfl]
  exact List.cons_ne_nil _ _

/-- Dots between names lead nowhere. -/
theorem follow_dots {dots names : List Text} (hdots : ∀ s ∈ dots, s = ['.']) (hnames : names ≠ [])
    (links : Nat) (p : Place) : follow top links p (dots ++ names) = follow top links p names := by
  induction dots with
  | nil => rfl
  | cons s rest ih =>
      obtain ⟨hs, hrest⟩ := List.forall_mem_cons.mp hdots
      rw [← ih hrest, List.cons_append, follow_eq, follow_eq, followNames, if_pos hs]
      by_cases hdirectory : (!p.node.isDirectory) = true
      · -- what comes after the dot asks for a directory just as the dot does
        obtain ⟨next, more, hmore⟩ := List.exists_cons_of_ne_nil
          (List.append_ne_nil_of_right_ne_nil rest hnames)
        rw [if_pos hdirectory, hmore, followNames, if_pos hdirectory]
      · rw [if_neg hdirectory]

/-- A path below the directory of a file leads where it leads below what stands in front of the name
of the file. -/
theorem find_join_parent (hlast : IsName last) (h : Path.isAbsolute path = false) (hne : path ≠ [])
    (base : Text) : t.find (Path.join (Path.parent (Path.join base last)) path) =
      t.find (Path.join base path) := by
  obtain ⟨dots, hpieces, hdots⟩ := Path.pieces_parent hlast base
  have hfollow : ∀ p, follow t.top maxLinks p
      (pieces (Path.parent (Path.join base last)) ++ (dots ++ steps path)) =
        follow t.top maxLinks p (pieces (Path.parent (Path.join base last)) ++ steps path) :=
    fun p => follow_exchange (R := Eq) (fun e => rfl)
      (follow_dots hdots (steps_ne_nil h hne)) maxLinks p _
  rw [find_eq (Path.join_ne_nil hne _), find_eq (Path.join_ne_nil hne _), start, start,
    Path.isAbsolute_join h, Path.isAbsolute_join h, Path.isAbsolute_parent hlast, steps_join h hne,
    steps_join h hne, hpieces, List.append_assoc]
  simp only [hfollow]

end FileTree

end WordingAudit
