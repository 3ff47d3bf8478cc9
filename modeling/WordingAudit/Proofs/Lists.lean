import WordingAudit.Text

/-!
Lists taken apart: pairs found by their first components, and parts of a text, where splitting
undoes putting together and a part of a part is a part.
-/

namespace WordingAudit

section Pairs

variable {α β : Type} [BEq α] [LawfulBEq α] {pairs : List (α × β)} {a : α} {b : β}

theorem mem_of_lookup (h : pairs.lookup a = some b) : (a, b) ∈ pairs := by
  obtain ⟨before, after, rfl, -⟩ := List.lookup_eq_some_iff.mp h
  exact List.mem_append_right before List.mem_cons_self

/-- Among pairs with different first components it does not matter where a pair stands. -/
theorem lookup_eq_some_iff_mem (distinct : (pairs.map (·.1)).Nodup) :
    pairs.lookup a = some b ↔ (a, b) ∈ pairs := by
  refine ⟨mem_of_lookup, fun hmem => ?_⟩
  obtain ⟨before, after, rfl⟩ := List.append_of_mem hmem
  refine List.lookup_eq_some_iff.mpr ⟨before, after, rfl, fun e he => ?_⟩
  rw [List.map_append, List.map_cons] at distinct
  have hne := (List.nodup_append.mp distinct).2.2 e.1 (List.mem_map_of_mem he) a
    List.mem_cons_self
  simpa using Ne.symm hne

end Pairs

namespace Text

theorem splitOnce_append {before : Text} {c : Char} (h : c ∉ before) (after : Text) :
    splitOnce (before ++ c :: after) c = some (before, after) := by
  induction before with
  | nil => rw [List.nil_append, splitOnce, if_pos rfl]
  | cons d rest ih =>
      have hd : d ≠ c := fun heq => h (heq ▸ List.mem_cons_self)
      rw [List.cons_append, splitOnce, if_neg hd, ih fun hc => h (List.mem_cons_of_mem d hc)]
      rfl

theorem splitOnce_eq_none_iff {t : Text} {c : Char} : splitOnce t c = none ↔ c ∉ t := by
  induction t with
  | nil => simp [splitOnce]
  | cons d rest ih =>
      rw [splitOnce]
      by_cases hd : d = c
      · simp [hd]
      · simp [hd, ih, Ne.symm hd]

theorem splitOnce_eq_some_iff {t before after : Text} {c : Char} :
    splitOnce t c = some (before, after) ↔ t = before ++ c :: after ∧ c ∉ before := by
  constructor
  · intro h
    have hmem : c ∈ t := by
      apply Classical.not_not.mp
      intro hnot
      rw [splitOnce_eq_none_iff.mpr hnot] at h
      cases h
    obtain ⟨front, back, rfl, hfront⟩ := List.eq_append_cons_of_mem hmem
    rw [splitOnce_append hfront] at h
    cases h
    exact ⟨rfl, hfront⟩
  · rintro ⟨rfl, h⟩
    exact splitOnce_append h after

theorem splitOnce_eq_takeWhile (t : Text) (c : Char) :
    (splitOnce t c).map (·.1) =
      if (t.takeWhile (· != c)).length < t.length then some (t.takeWhile (· != c)) else none := by
  induction t with
  | nil => rfl
  | cons d rest ih =>
      rw [splitOnce]
      by_cases hd : d = c
      · simp [hd]
      · rw [if_neg hd, List.takeWhile_cons_of_pos (by simpa using hd)]
        cases hsplit : splitOnce rest c with
        | none => simp_all
        | some ends => simp_all

theorem splitAll_of_not_mem {t : Text} {c : Char} (h : c ∉ t) : splitAll t c = [t] := by
  induction t with
  | nil => rfl
  | cons d rest ih =>
      have hd : d ≠ c := fun heq => h (heq ▸ List.mem_cons_self)
      have hrest : c ∉ rest := fun hc => h (List.mem_cons_of_mem d hc)
      rw [splitAll, if_neg hd, ih hrest]

theorem splitAll_ne_nil (t : Text) (c : Char) : splitAll t c ≠ [] := by
  cases t with
  | nil => exact List.cons_ne_nil _ _
  | cons d rest =>
      rw [splitAll]
      split
      · exact List.cons_ne_nil _ _
      · split <;> exact List.cons_ne_nil _ _

/-- A character that does not separate stands at the beginning of the first piece. -/
theorem splitAll_cons_of_ne {c d : Char} (h : d ≠ c) (rest : Text) :
    ∃ piece pieces, splitAll rest c = piece :: pieces ∧
      splitAll (d :: rest) c = (d :: piece) :: pieces := by
  obtain ⟨piece, pieces, hsplit⟩ := List.exists_cons_of_ne_nil (splitAll_ne_nil rest c)
  refine ⟨piece, pieces, hsplit, ?_⟩
  rw [splitAll, if_neg h, hsplit]

theorem splitAll_append (a b : Text) (c : Char) :
    splitAll (a ++ c :: b) c = splitAll a c ++ splitAll b c := by
  induction a with
  | nil => simp [splitAll]
  | cons d rest ih =>
      by_cases hd : d = c
      · rw [List.cons_append, splitAll, splitAll, ih, if_pos hd, if_pos hd, List.cons_append]
      · obtain ⟨piece, pieces, hrest, hsplit⟩ := splitAll_cons_of_ne hd rest
        obtain ⟨_, _, hall, hsplit'⟩ := splitAll_cons_of_ne hd (rest ++ c :: b)
        rw [ih, hrest, List.cons_append] at hall
        cases hall
        rw [List.cons_append, hsplit', hsplit, List.cons_append]

theorem length_splitAll (t : Text) (c : Char) : (splitAll t c).length = t.count c + 1 := by
  induction t with
  | nil => rfl
  | cons d rest ih =>
      by_cases hd : d = c
      · rw [splitAll, if_pos hd, List.length_cons, ih, hd, List.count_cons_self]
      · obtain ⟨piece, pieces, hrest, hsplit⟩ := splitAll_cons_of_ne hd rest
        rw [hrest] at ih
        rw [hsplit, List.count_cons_of_ne hd, ← ih]
        rfl

/-- Texts with a separator after each, split again: the pieces of each, and the empty rest. -/
theorem splitAll_flatMap (texts : List Text) (c : Char) :
    splitAll (texts.flatMap fun t => t ++ [c]) c =
      (texts.flatMap fun t => splitAll t c) ++ [[]] := by
  induction texts with
  | nil => rfl
  | cons t rest ih =>
      rw [List.flatMap_cons, List.flatMap_cons, List.append_assoc, List.singleton_append,
        splitAll_append, ih, List.append_assoc]

theorem length_flatMap_splitAll (texts : List Text) (c : Char) :
    (texts.flatMap fun t => splitAll t c).length = texts.length + texts.flatten.count c := by
  induction texts with
  | nil => rfl
  | cons t rest ih =>
      rw [List.flatMap_cons, List.length_append, length_splitAll, ih, List.length_cons,
        List.flatten_cons, List.count_append]
      omega

theorem not_mem_of_mem_splitAll {t piece : Text} {c : Char} (h : piece ∈ splitAll t c) :
    c ∉ piece := by
  induction t generalizing piece with
  | nil =>
      rw [List.mem_singleton.mp h]
      exact List.not_mem_nil
  | cons d rest ih =>
      by_cases hd : d = c
      · rw [splitAll, if_pos hd] at h
        rcases List.mem_cons.mp h with rfl | h
        · exact List.not_mem_nil
        · exact ih h
      · obtain ⟨first, pieces, hrest, hsplit⟩ := splitAll_cons_of_ne hd rest
        rw [hrest] at ih
        rw [hsplit] at h
        rcases List.mem_cons.mp h with rfl | h
        · exact List.not_mem_cons_of_ne_of_not_mem (Ne.symm hd) (ih List.mem_cons_self)
        · exact ih (List.mem_cons_of_mem first h)

theorem join_cons {pieces : List Text} (h : pieces ≠ []) (separator t : Text) :
    join separator (t :: pieces) = t ++ separator ++ join separator pieces := by
  obtain ⟨next, rest, rfl⟩ := List.exists_cons_of_ne_nil h
  rfl

/-- The pieces of a text, joined again, are the text. -/
theorem join_splitAll (t : Text) (c : Char) : join [c] (splitAll t c) = t := by
  induction t with
  | nil => rfl
  | cons d rest ih =>
      by_cases hd : d = c
      · rw [splitAll, if_pos hd, join_cons (splitAll_ne_nil rest c), ih, hd]
        rfl
      · obtain ⟨piece, pieces, hrest, hsplit⟩ := splitAll_cons_of_ne hd rest
        rw [hrest] at ih
        rw [hsplit]
        cases pieces with
        | nil => exact congrArg (d :: ·) ih
        | cons next pieces => exact congrArg (d :: ·) ih

theorem prefix_join (separator : Text) (pieces more : List Text) :
    join separator pieces <+: join separator (pieces ++ more) := by
  induction pieces with
  | nil => exact List.nil_prefix
  | cons t rest ih =>
      cases rest with
      | nil =>
          cases more with
          | nil => exact List.prefix_refl _
          | cons next more =>
              rw [List.singleton_append, join_cons (List.cons_ne_nil next more),
                List.append_assoc]
              exact List.prefix_append t _
      | cons next rest =>
          rw [List.cons_append, join_cons (List.cons_ne_nil next rest), List.cons_append,
            join_cons (List.cons_ne_nil next (rest ++ more))]
          exact (List.prefix_append_right_inj _).mpr ih

/-- Splitting gives back the pieces that were joined, if the separator is in none of them. -/
theorem splitAll_join {c : Char} {pieces : List Text} (hne : pieces ≠ [])
    (h : ∀ piece ∈ pieces, c ∉ piece) : splitAll (join [c] pieces) c = pieces := by
  induction pieces with
  | nil => exact absurd rfl hne
  | cons piece rest ih =>
      obtain ⟨hpiece, hrest⟩ := List.forall_mem_cons.mp h
      cases rest with
      | nil => exact splitAll_of_not_mem hpiece
      | cons next rest =>
          rw [join_cons (List.cons_ne_nil next rest), List.append_assoc, List.singleton_append,
            splitAll_append, splitAll_of_not_mem hpiece, ih (List.cons_ne_nil next rest) hrest,
            List.singleton_append]

/-- A number is known by its digits. -/
theorem ofNat_injective {m n : Nat} (h : ofNat m = ofNat n) : m = n := by
  calc
    m = Nat.ofDigitChars 10 (ofNat m) 0 := Nat.ofDigitChars_ten_toDigits.symm
    _ = Nat.ofDigitChars 10 (ofNat n) 0 := by rw [h]
    _ = n := Nat.ofDigitChars_ten_toDigits

theorem length_slice {t : Text} {start stop : Nat} (h : stop ≤ t.length) :
    (slice t start stop).length = stop - start := by
  rw [slice, List.length_take, List.length_drop]
  omega

/-- A slice of a slice is a slice of the whole text. -/
theorem slice_slice {t : Text} {start stop first last : Nat} (h : start + last ≤ stop) :
    slice (slice t start stop) first last = slice t (start + first) (start + last) := by
  rw [slice, slice, slice, List.drop_take, List.take_take, List.drop_drop]
  congr 1
  omega

theorem slice_infix (t : Text) (start stop : Nat) : slice t start stop <:+: t :=
  (List.take_prefix _ _).isInfix.trans (List.drop_suffix _ _).isInfix

end Text

end WordingAudit
