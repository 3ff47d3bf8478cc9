import WordingAudit.Pattern.Match

/-!
The groups of a pattern that has been read. Simplifying an expression never brings a group in, so
every group comes from an opening parenthesis: its number is positive, and its name, if it has one,
is made of name characters. Group 0 is left for the whole occurrence.
-/

namespace WordingAudit.Pattern

namespace Expr

theorem groups_append (a b : Expr) : (append a b).groups = a.groups ++ b.groups := by
  fun_induction append a b with
  | case1 e => rfl
  | case2 a b e ih => rw [groups, groups, ih, List.append_assoc]
  | case3 a _ _ => rw [show groups empty = [] from rfl, List.append_nil]
  | case4 a e _ _ _ => rfl

theorem groups_sequence (es : List Expr) : (sequence es).groups = es.flatMap groups := by
  induction es with
  | nil => rfl
  | cons e rest ih =>
      rw [List.flatMap_cons, ← ih]
      exact groups_append e (sequence rest)

theorem flatMap_groups_parts (e : Expr) : e.parts.flatMap groups = e.groups := by
  fun_induction parts e with
  | case1 a b ih => rw [List.flatMap_cons, ih, groups]
  | case2 e _ => rw [List.flatMap_singleton]

theorem flatMap_groups_branches (e : Expr) : e.branches.flatMap groups = e.groups := by
  fun_induction branches e with
  | case1 a b ih => rw [List.flatMap_cons, ih, groups]
  | case2 e _ => rw [List.flatMap_singleton]

theorem groups_alternatives (es : List Expr) : (alternatives es).groups = es.flatMap groups := by
  fun_induction alternatives es with
  | case1 => rfl
  | case2 e => rw [List.flatMap_singleton]
  | case3 e rest _ ih => rw [groups, ih, List.flatMap_cons]

theorem groups_times {least : Nat} {most : Option Nat} {greedy : Bool} {body : Expr}
    {g : Nat × Option Text} (h : g ∈ (times least most greedy body).groups) : g ∈ body.groups := by
  rw [times] at h
  split at h
  rename_i least most _
  split at h
  · cases h
  · split at h
    · exact h
    · exact h

theorem prefix_commonParts (xs ys : List Expr) : commonParts xs ys <+: xs := by
  induction xs generalizing ys with
  | nil => exact List.nil_prefix
  | cons x rest ih =>
      cases ys with
      | nil => exact List.nil_prefix
      | cons y ys =>
          rw [commonParts]
          split
          · exact (List.prefix_cons_inj x).mpr (ih ys)
          · exact List.nil_prefix

theorem prefix_foldl_commonParts (first : List Expr) (rest : List (List Expr)) :
    rest.foldl commonParts first <+: first := by
  induction rest generalizing first with
  | nil => exact List.prefix_rfl
  | cons ys rest ih => exact (ih (commonParts first ys)).trans (prefix_commonParts first ys)

/-- The beginning that expressions share is made of parts of the first one. -/
theorem mem_commonBeginning {es : List Expr} {x : Expr} (h : x ∈ commonBeginning es) :
    ∃ e ∈ es, x ∈ e.parts := by
  rw [commonBeginning] at h
  cases es with
  | nil => cases h
  | cons e rest =>
      rw [List.map_cons] at h
      dsimp only at h
      split at h
      · exact ⟨e, List.mem_cons_self, (prefix_foldl_commonParts _ _).subset h⟩
      · cases h

theorem mem_groups_of_mem_parts {e x : Expr} {g : Nat × Option Text} (hx : x ∈ e.parts)
    (hg : g ∈ x.groups) : g ∈ e.groups := by
  rw [← flatMap_groups_parts e]
  exact List.mem_flatMap.mpr ⟨x, hx, hg⟩

theorem mem_groups_choiceWithin {fuel : Nat} {es : List Expr} {g : Nat × Option Text}
    (h : g ∈ (choiceWithin fuel es).groups) : ∃ e ∈ es, g ∈ e.groups := by
  induction fuel generalizing es with
  | zero =>
      rw [choiceWithin, groups_alternatives] at h
      exact List.mem_flatMap.mp h
  | succ fuel ih =>
      have hbranches {x : Expr} (hx : x ∈ es.flatMap branches) (hg : g ∈ x.groups) :
          ∃ e ∈ es, g ∈ e.groups := by
        obtain ⟨e, he, hxe⟩ := List.mem_flatMap.mp hx
        refine ⟨e, he, ?_⟩
        rw [← flatMap_groups_branches e]
        exact List.mem_flatMap.mpr ⟨x, hxe, hg⟩
      rw [choiceWithin] at h
      generalize es.flatMap branches = flat at h hbranches
      dsimp only at h
      split at h
      · exact hbranches List.mem_cons_self h
      · split at h
        · cases h
        · split at h
          · rw [groups_alternatives] at h
            obtain ⟨x, hx, hg⟩ := List.mem_flatMap.mp h
            exact hbranches hx hg
          · rw [groups_sequence, List.flatMap_append, List.mem_append] at h
            rcases h with hcommon | htail
            · obtain ⟨x, hx, hg⟩ := List.mem_flatMap.mp hcommon
              obtain ⟨e, he, hxe⟩ := mem_commonBeginning hx
              exact hbranches he (mem_groups_of_mem_parts hxe hg)
            · rw [List.flatMap_singleton] at htail
              obtain ⟨tail, hmem, hg⟩ := ih htail
              obtain ⟨e, he, rfl⟩ := List.mem_map.mp hmem
              rw [groups_sequence] at hg
              obtain ⟨x, hx, hg⟩ := List.mem_flatMap.mp hg
              exact hbranches he (mem_groups_of_mem_parts (List.mem_of_mem_drop hx) hg)

theorem mem_groups_choice {es : List Expr} {g : Nat × Option Text} (h : g ∈ (choice es).groups) :
    ∃ e ∈ es, g ∈ e.groups :=
  mem_groups_choiceWithin h

end Expr

/-- A name that a group can have. -/
def IsGroupName : Text → Prop
  | [] => False
  | c :: rest => isNameCharacter true c = true ∧ ∀ d ∈ rest, isNameCharacter false d = true

/-- A number and a name that a group inside a pattern can have. -/
def IsGroup (g : Nat × Option Text) : Prop := 0 < g.1 ∧ ∀ name, g.2 = some name → IsGroupName name

/-- All the groups of the expression have proper numbers and names. -/
def Expr.Named (e : Expr) : Prop := ∀ g ∈ e.groups, IsGroup g

namespace Expr

theorem named_of_groups_eq_nil {e : Expr} (h : e.groups = []) : e.Named := by
  intro g hg
  rw [h] at hg
  cases hg

theorem named_sequence {es : List Expr} (h : ∀ e ∈ es, e.Named) : (sequence es).Named := by
  intro g hg
  rw [groups_sequence] at hg
  obtain ⟨e, he, hge⟩ := List.mem_flatMap.mp hg
  exact h e he g hge

theorem named_choice {es : List Expr} (h : ∀ e ∈ es, e.Named) : (choice es).Named := by
  intro g hg
  obtain ⟨e, he, hge⟩ := mem_groups_choice hg
  exact h e he g hge

theorem named_group {index : Nat} {name : Option Text} {body : Expr}
    (hgroup : IsGroup (index, name)) (hbody : body.Named) : (group index name body).Named := by
  intro g hg
  rcases List.mem_cons.mp hg with rfl | hg
  · exact hgroup
  · exact hbody g hg

theorem named_times {least : Nat} {most : Option Nat} {greedy : Bool} {body : Expr}
    (h : body.Named) : (times least most greedy body).Named :=
  fun g hg => h g (groups_times hg)

end Expr

namespace OpenGroup

/-- Everything read in the group so far has proper groups. -/
structure Named (g : OpenGroup) : Prop where
  branches : ∀ e ∈ g.branches, e.Named
  parts : ∀ e, some e ∈ g.parts → e.Named

theorem named_new : new.Named :=
  ⟨fun _ h => absurd h List.not_mem_nil, fun _ h => absurd h List.not_mem_nil⟩

theorem Named.push {g : OpenGroup} (h : g.Named) {e : Option Expr}
    (he : ∀ x, e = some x → x.Named) : (g.push e).Named := by
  refine ⟨h.branches, fun x hx => ?_⟩
  rcases List.mem_cons.mp hx with heq | hmem
  · exact he x heq.symm
  · exact h.parts x hmem

theorem Named.current {g : OpenGroup} (h : g.Named) : g.current.Named := by
  refine Expr.named_sequence fun e he => ?_
  rw [List.mem_filterMap] at he
  obtain ⟨part, hpart, rfl⟩ := he
  exact h.parts e (List.mem_reverse.mp hpart)

theorem Named.close {g : OpenGroup} (h : g.Named) : g.close.Named := by
  rw [OpenGroup.close]
  split
  · exact h.current
  · refine Expr.named_choice fun e he => ?_
    rcases List.mem_cons.mp (List.mem_reverse.mp he) with rfl | hmem
    · exact h.current
    · exact h.branches e hmem

end OpenGroup

namespace Reading

/-- Everything read so far has proper groups, and so will the groups that are still open. -/
structure Named (r : Reading) : Prop where
  next : 0 < r.nextGroup
  current : r.current.Named
  around : ∀ f ∈ r.outer, f.around.Named
  capture : ∀ f ∈ r.outer, ∀ g, f.capture = some g → IsGroup g

theorem named_start : start.Named :=
  ⟨Nat.one_pos, OpenGroup.named_new, fun _ h => absurd h List.not_mem_nil,
    fun _ h => absurd h List.not_mem_nil⟩

theorem Named.push {r : Reading} (h : r.Named) {e : Option Expr}
    (he : ∀ x, e = some x → x.Named) : (r.push e).Named :=
  ⟨h.next, h.current.push he, h.around, h.capture⟩

theorem Named.push_some {r : Reading} (h : r.Named) {e : Expr} (he : e.groups = []) :
    (r.push (some e)).Named := by
  refine h.push fun x hx => ?_
  cases hx
  exact Expr.named_of_groups_eq_nil he

theorem Named.enter {r : Reading} (h : r.Named) {capture : Option (Nat × Option Text)}
    (hcapture : ∀ g, capture = some g → IsGroup g) (flags : Flags) :
    (r.enter capture flags).Named := by
  refine ⟨?_, OpenGroup.named_new, fun f hf => ?_, fun f hf => ?_⟩
  · have hnext := h.next
    rw [Reading.enter]
    dsimp only
    split <;> omega
  · rcases List.mem_cons.mp hf with rfl | hmem
    · exact h.current
    · exact h.around f hmem
  · rcases List.mem_cons.mp hf with rfl | hmem
    · exact hcapture
    · exact h.capture f hmem

theorem Named.leave {r r' : Reading} (h : r.Named) (hleave : r.leave? = some r') : r'.Named := by
  rw [leave?] at hleave
  split at hleave
  · cases hleave
  · rename_i frame outer houter
    cases hleave
    have hframe : frame ∈ r.outer := houter ▸ List.mem_cons_self
    have hrest {f : Frame} (hf : f ∈ outer) : f ∈ r.outer := houter ▸ List.mem_cons_of_mem frame hf
    refine ⟨h.next, (h.around frame hframe).push fun x hx => ?_, fun f hf => h.around f (hrest hf),
      fun f hf => h.capture f (hrest hf)⟩
    cases hx
    split
    · exact h.current.close
    · rename_i index name hcapture
      exact Expr.named_group (h.capture frame hframe (index, name) hcapture) h.current.close

theorem Named.alternate {r : Reading} (h : r.Named) : r.alternate.Named := by
  refine ⟨h.next, ⟨fun e he => ?_, fun _ he => nomatch he⟩, h.around, h.capture⟩
  rcases List.mem_cons.mp he with rfl | hmem
  · exact h.current.current
  · exact h.current.branches e hmem

theorem Named.repeat {r r' : Reading} (h : r.Named) {least : Nat} {most : Option Nat}
    {greedy : Bool} (hrepeat : r.repeat? least most greedy = some r') : r'.Named := by
  rw [repeat?] at hrepeat
  split at hrepeat
  · rename_i e parts hparts
    cases hrepeat
    refine ⟨h.next, ⟨h.current.branches, fun x hx => ?_⟩, h.around, h.capture⟩
    rcases List.mem_cons.mp hx with heq | hmem
    · cases heq
      exact Expr.named_times (h.current.parts e (hparts ▸ List.mem_cons_self))
    · exact h.current.parts x (hparts ▸ List.mem_cons_of_mem (some e) hmem)
  · cases hrepeat

theorem Named.repeat_map {r r' : Reading} (h : r.Named) {least : Nat} {most : Option Nat}
    {greedy : Bool} {t rest : Text}
    (hrepeat : ((r.repeat? least most greedy).map fun r => (r, t)) = some (r', rest)) :
    r'.Named := by
  obtain ⟨r₁, hr₁, heq⟩ := Option.map_eq_some_iff.mp hrepeat
  cases heq
  exact h.repeat hr₁

end Reading

theorem isNameCharacter_of_readName? {t name rest : Text}
    (h : readName? false t = some (name, rest)) : ∀ d ∈ name, isNameCharacter false d = true := by
  induction t generalizing name rest with
  | nil => cases h
  | cons c t ih =>
      rw [readName?] at h
      split at h
      · cases h
        exact fun d hd => nomatch hd
      · split at h
        · rename_i hc
          obtain ⟨⟨name', rest'⟩, hread, heq⟩ := Option.map_eq_some_iff.mp h
          cases heq
          intro d hd
          rcases List.mem_cons.mp hd with rfl | hmem
          · exact hc
          · exact ih hread d hmem
        · cases h

theorem isGroupName_of_readName? {t name rest : Text} (h : readName? true t = some (name, rest)) :
    IsGroupName name := by
  cases t with
  | nil => cases h
  | cons c t =>
      rw [readName?] at h
      split at h
      · cases h
      · split at h
        · rename_i hc
          obtain ⟨⟨name', rest'⟩, hread, heq⟩ := Option.map_eq_some_iff.mp h
          cases heq
          exact ⟨hc, isNameCharacter_of_readName? hread⟩
        · cases h

theorem named_readNamedGroup? {r r' : Reading} {t rest : Text} (h : r.Named)
    (hread : readNamedGroup? r t = some (r', rest)) : r'.Named := by
  obtain ⟨⟨name, rest'⟩, hname, hread⟩ := Option.bind_eq_some_iff.mp hread
  dsimp only at hread
  split at hread
  · cases hread
  · cases hread
    have hr : ({ r with names := name :: r.names } : Reading).Named :=
      ⟨h.next, h.current, h.around, h.capture⟩
    refine hr.enter (fun g hg => ?_) r.flags
    cases hg
    exact ⟨h.next, fun _ heq => Option.some.inj heq ▸ isGroupName_of_readName? hname⟩

theorem named_readGroup? {r r' : Reading} {t rest : Text} (h : r.Named)
    (hread : readGroup? r t = some (r', rest)) : r'.Named := by
  rw [readGroup?] at hread
  split at hread
  · cases hread
  · cases hread
  · cases hread
  · cases hread
  · exact named_readNamedGroup? h hread
  · exact named_readNamedGroup? h hread
  · obtain ⟨⟨flags, last, seen, rest'⟩, -, hread⟩ := Option.bind_eq_some_iff.mp hread
    dsimp only at hread
    split at hread
    · cases hread
      refine h.enter (fun g hg => ?_) flags
      cases hg
    · split at hread
      · cases hread
      · cases hread
        have hr : ({ r with flags := flags } : Reading).Named :=
          ⟨h.next, h.current, h.around, h.capture⟩
        exact hr.push fun x hx => nomatch hx
  · cases hread
    refine h.enter (fun g hg => ?_) r.flags
    cases hg
    exact ⟨h.next, fun _ heq => nomatch heq⟩

theorem Primitive.groups_expr? {flags : Flags} {part : Primitive} {e : Expr}
    (h : part.expr? flags = some e) : e.groups = [] := by
  rw [expr?.eq_def] at h
  split at h
  · split at h
    · cases h
    · split at h
      · cases h
        rfl
      · cases h
        rfl
  · cases h
    rfl
  · obtain ⟨members, -, rfl⟩ := Option.map_eq_some_iff.mp h
    rfl

/-- One construct keeps the groups of what is read proper. -/
theorem named_readStep? {r r' : Reading} {c : Char} {t rest : Text} (h : r.Named)
    (hread : readStep? r c t = some (r', rest)) : r'.Named := by
  rw [readStep?.eq_def] at hread
  split at hread
  · exact named_readGroup? h hread
  · obtain ⟨r₁, hleave, heq⟩ := Option.map_eq_some_iff.mp hread
    cases heq
    exact h.leave hleave
  · cases hread
    exact h.alternate
  · obtain ⟨⟨members, rest'⟩, -, heq⟩ := Option.map_eq_some_iff.mp hread
    cases heq
    exact h.push_some rfl
  · exact h.repeat_map hread
  · exact h.repeat_map hread
  · exact h.repeat_map hread
  · obtain ⟨⟨least, most, rest'⟩, -, hread⟩ := Option.bind_eq_some_iff.mp hread
    exact h.repeat_map hread
  · obtain ⟨⟨part, rest'⟩, -, hread⟩ := Option.bind_eq_some_iff.mp hread
    obtain ⟨e, he, hread⟩ := Option.bind_eq_some_iff.mp hread
    cases hread
    exact h.push_some (Primitive.groups_expr? he)
  · split at hread
    · cases hread
    · cases hread
      exact h.push_some rfl
  · cases hread
    exact h.push_some rfl
  · cases hread
    exact h.push_some rfl
  · obtain ⟨e, he, heq⟩ := Option.map_eq_some_iff.mp hread
    cases heq
    exact h.push_some (Primitive.groups_expr? he)

theorem named_readWithin? {fuel : Nat} {r : Reading} {t : Text} {e : Expr} (h : r.Named)
    (hread : readWithin? fuel r t = some e) : e.Named := by
  induction fuel generalizing r t with
  | zero => cases hread
  | succ fuel ih =>
      rw [readWithin?] at hread
      split at hread
      · split at hread
        · cases hread
          exact h.current.close
        · cases hread
      · obtain ⟨⟨r', rest'⟩, hstep, hread⟩ := Option.bind_eq_some_iff.mp hread
        exact ih (named_readStep? h hstep) hread

/-- The groups of a pattern that has been read have positive numbers and proper names. -/
theorem named_read? {t : Text} {e : Expr} (h : read? t = some e) : e.Named :=
  named_readWithin? Reading.named_start h

theorem isGroupName_of_mem_groupNames {source name : Text} {p : Pattern}
    (h : ofText? source = some p) (hname : some name ∈ p.groupNames) : IsGroupName name := by
  obtain ⟨e, hread, rfl⟩ := Option.map_eq_some_iff.mp h
  obtain ⟨i, -, hi⟩ := List.mem_map.mp hname
  obtain ⟨g, hfind, hg⟩ := Option.map_eq_some_iff.mp (Option.join_eq_some_iff.mp hi)
  exact (named_read? hread g (List.mem_of_find?_eq_some hfind)).2 name hg

theorem isAlpha_iff {c : Char} :
    c.isAlpha = true ↔ (65 ≤ c.toNat ∧ c.toNat ≤ 90) ∨ (97 ≤ c.toNat ∧ c.toNat ≤ 122) := by
  have hupper : c.isUpper = true ↔ 65 ≤ c.toNat ∧ c.toNat ≤ 90 := decide_eq_true_iff
  have hlower : c.isLower = true ↔ 97 ≤ c.toNat ∧ c.toNat ≤ 122 :=
    Bool.and_eq_true_iff.trans (and_congr decide_eq_true_iff decide_eq_true_iff)
  exact Bool.or_eq_true_iff.trans (or_congr hupper hlower)

/-- A name does not begin with a digit. -/
theorem isNameCharacter_digit {c : Char} (h : c.isDigit) : isNameCharacter true c = false := by
  obtain ⟨hlow, hhigh⟩ : 48 ≤ c.toNat ∧ c.toNat ≤ 57 := Char.isDigit_iff_toNat.mp h
  have halpha : c.isAlpha = false := by
    rw [← Bool.not_eq_true, isAlpha_iff]
    omega
  have hunder : c ≠ '_' := by
    rintro rfl
    exact absurd hhigh (by decide)
  rw [isNameCharacter, if_pos (by omega), halpha, decide_eq_false hunder]
  rfl

theorem IsGroupName.brace_not_mem {name : Text} (h : IsGroupName name) : '\x7d' ∉ name := by
  cases name with
  | nil => exact h.elim
  | cons c rest =>
      intro hmem
      rcases List.mem_cons.mp hmem with rfl | hmem
      · exact absurd h.1 (by decide)
      · exact absurd (h.2 _ hmem) (by decide)

theorem IsGroupName.not_all_digits {name : Text} (h : IsGroupName name) :
    name.all Char.isDigit = false := by
  cases name with
  | nil => exact h.elim
  | cons c rest =>
      have hc : c.isDigit = false := by
        rw [← Bool.not_eq_true]
        intro hdigit
        rw [IsGroupName, isNameCharacter_digit hdigit] at h
        exact absurd h.1 (by decide)
      rw [List.all_cons, hc, Bool.false_and]

theorem group?_zero {p : Pattern} {c : Cursor} {m : Match} (h : p.findAt c = some m) :
    m.group? 0 = some m.span := by
  obtain ⟨t, -, h⟩ := Option.bind_eq_some_iff.mp h
  split at h
  · rename_i start stop hstart hstop
    cases h
    rw [Match.group?, hstart, hstop]
  · cases h

end WordingAudit.Pattern
