import WordingAudit.Comparison

/-!
Reading a pattern step by step, and what an escaped text is read as: one set with one member for
each of its characters, whatever characters they are.
-/

namespace WordingAudit.Pattern

/-- From one state and text reading comes to another, with fuel to go on. -/
def Reads (r : Reading) (t : Text) (r' : Reading) (t' : Text) : Prop :=
  ∀ fuel, t.length < fuel →
    ∃ fuel', t'.length < fuel' ∧ readWithin? fuel r t = readWithin? fuel' r' t'

theorem Reads.refl (r : Reading) (t : Text) : Reads r t r t :=
  fun fuel hfuel => ⟨fuel, hfuel, rfl⟩

theorem Reads.trans {r r' r'' : Reading} {t t' t'' : Text} (h : Reads r t r' t')
    (h' : Reads r' t' r'' t'') : Reads r t r'' t'' := by
  intro fuel hfuel
  obtain ⟨fuel', hfuel', heq⟩ := h fuel hfuel
  obtain ⟨fuel'', hfuel'', heq'⟩ := h' fuel' hfuel'
  exact ⟨fuel'', hfuel'', heq.trans heq'⟩

theorem Reads.step {r r' : Reading} {c : Char} {t t' : Text}
    (hblanks : r.flags.ignoreBlanks = false) (hstep : readStep? r c t = some (r', t'))
    (hle : t'.length ≤ t.length) :
    Reads r (c :: t) r' t' := by
  intro fuel hfuel
  cases fuel with
  | zero => exact absurd hfuel (Nat.not_lt_zero _)
  | succ fuel =>
      rw [List.length_cons] at hfuel
      refine ⟨fuel, by omega, ?_⟩
      have hskip : r.flags.skip (c :: t) = c :: t := by
        rw [Flags.skip, hblanks]
        rfl
      rw [readWithin?, hskip]
      dsimp only
      rw [hstep, Option.bind_some]

/-- What a text is read as when reading ends with everything in the outermost group. -/
theorem read?_of_reads {t : Text} {r : Reading} (h : Reads Reading.start t r [])
    (houter : r.outer = []) : read? t = some r.current.close := by
  obtain ⟨fuel, hfuel, heq⟩ := h (t.length + 1) (Nat.lt_succ_self _)
  cases fuel with
  | zero => exact absurd hfuel (Nat.not_lt_zero _)
  | succ fuel =>
      have hskip : r.flags.skip [] = [] := by
        rw [Flags.skip, skipBlanks]
        exact ite_self []
      rw [read?, heq, readWithin?, hskip, houter]
      rfl

/-- The characters that have a meaning in patterns. -/
def specials : Text := ("\\.+*?()|[]\x7b\x7d^$#&-~").toList

theorem escape_cons_special {c : Char} (h : c ∈ specials) (t : Text) :
    escape (c :: t) = '\\' :: c :: escape t := by
  have hcontains : ("\\.+*?()|[]\x7b\x7d^$#&-~").toList.contains c = true :=
    List.contains_iff_mem.mpr h
  rw [escape, List.flatMap_cons, if_pos hcontains]
  rfl

theorem escape_cons_plain {c : Char} (h : c ∉ specials) (t : Text) :
    escape (c :: t) = c :: escape t := by
  have hcontains : ¬("\\.+*?()|[]\x7b\x7d^$#&-~").toList.contains c = true :=
    fun hc => h (List.contains_iff_mem.mp hc)
  rw [escape, List.flatMap_cons, if_neg hcontains]
  rfl

/-- An escaped text does not begin with a question mark. -/
theorem head?_escape_append {t rest : Text} (h : rest.head? ≠ some '?') :
    (escape t ++ rest).head? ≠ some '?' := by
  cases t with
  | nil => exact h
  | cons c t =>
      by_cases hc : c ∈ specials
      · rw [escape_cons_special hc]
        exact fun heq => absurd (Option.some.inj heq) (by decide)
      · rw [escape_cons_plain hc]
        intro heq
        obtain rfl := Option.some.inj heq
        exact hc (by decide)

theorem readEscape?_special {flags : Flags} {c : Char} (h : c ∈ specials) (t : Text) :
    readEscape? flags (c :: t) = some (.literal c false, t) := by
  have hplain : specials.all (fun d => d.toNat < 128 && !d.isAlphanum) = true := by decide
  rw [readEscape?.eq_def]
  dsimp only
  split
  all_goals first | exact absurd h (by decide) | exact if_pos (List.all_eq_true.mp hplain c h)

theorem readStep?_plain {r : Reading} {c : Char} (h : c ∉ specials) (t : Text) :
    readStep? r c t =
      ((Primitive.literal c false).expr? r.flags).map fun e => (r.push (some e), t) := by
  rw [readStep?.eq_def]
  split
  all_goals first | exact absurd (by decide) h | rfl

/-- The expression for a character that stands for itself. -/
def Expr.character (c : Char) : Expr := .set (.single c)

/-- The expression for any run of characters. -/
def Expr.anything : Expr := .repeated 0 none true (.set .all)

/-- The parts of the expression for literal texts with anything between neighbours. -/
def Expr.between : List Text → List Expr
  | [] => []
  | [t] => t.map character
  | t :: rest => t.map character ++ anything :: between rest

/-- The state after some parts of a pattern without groups in which a full stop is any character. -/
def Reading.flat (parts : List (Option Expr)) : Reading :=
  ⟨{ dotAll := true }, 1, [], ⟨[], parts⟩, []⟩

theorem reads_character (parts : List (Option Expr)) (c : Char) (rest : Text) :
    Reads (.flat parts) (escape [c] ++ rest) (.flat (some (.character c) :: parts)) rest := by
  have hexpr : (Primitive.literal c false).expr? (Reading.flat parts).flags =
      some (Expr.character c) := by
    simp [Primitive.expr?, Reading.flat, Flags.foldCase, Expr.character]
  by_cases hc : c ∈ specials
  · rw [escape_cons_special hc]
    refine Reads.step rfl ?_ (Nat.le_succ _)
    rw [readStep?]
    have hread : readEscape? (Reading.flat parts).flags (c :: rest) =
        some (.literal c false, rest) := readEscape?_special hc rest
    exact Option.bind_eq_some_iff.mpr
      ⟨_, hread, Option.bind_eq_some_iff.mpr ⟨_, hexpr, rfl⟩⟩
  · rw [escape_cons_plain hc]
    refine Reads.step rfl ?_ (Nat.le_refl _)
    rw [readStep?_plain hc, hexpr]
    rfl

theorem reads_escape (parts : List (Option Expr)) (t rest : Text) :
    Reads (.flat parts) (escape t ++ rest)
      (.flat (((t.map Expr.character).map some).reverse ++ parts)) rest := by
  induction t generalizing parts with
  | nil => exact .refl _ _
  | cons c t ih =>
      have hescape : escape (c :: t) ++ rest = escape [c] ++ (escape t ++ rest) := by
        simp [escape]
      rw [hescape, List.map_cons, List.map_cons, List.reverse_cons, List.append_assoc]
      exact (reads_character parts c _).trans (ih _)

theorem reads_anything (parts : List (Option Expr)) {rest : Text} (h : rest.head? ≠ some '?') :
    Reads (.flat parts) (Text.of ".*" ++ rest) (.flat (some .anything :: parts)) rest := by
  have hgreed : readGreed rest = (true, rest) := by
    rw [readGreed.eq_def]
    split
    · exact absurd rfl h
    · rfl
  have hdot : Reads (.flat parts) ('.' :: '*' :: rest) (.flat (some (.set .all) :: parts))
      ('*' :: rest) :=
    .step rfl rfl (Nat.le_refl _)
  refine hdot.trans (.step rfl ?_ (Nat.le_refl _))
  rw [readStep?, hgreed]
  rfl

theorem head?_join_escape (t : Text) (pieces : List Text) {rest : Text}
    (h : rest.head? ≠ some '?') :
    (Text.join (Text.of ".*") ((t :: pieces).map escape) ++ rest).head? ≠ some '?' := by
  cases pieces with
  | nil => exact head?_escape_append h
  | cons next pieces =>
      have hjoin : Text.join (Text.of ".*") ((t :: next :: pieces).map escape) ++ rest =
          escape t ++ ('.' :: '*' ::
            (Text.join (Text.of ".*") ((next :: pieces).map escape) ++ rest)) := by
        simp [Text.join, Text.of]
      rw [hjoin]
      exact head?_escape_append (by simp)

theorem reads_join (parts : List (Option Expr)) (pieces : List Text) {rest : Text}
    (h : rest.head? ≠ some '?') :
    Reads (.flat parts) (Text.join (Text.of ".*") (pieces.map escape) ++ rest)
      (.flat (((Expr.between pieces).map some).reverse ++ parts)) rest := by
  induction pieces generalizing parts with
  | nil => exact .refl _ _
  | cons t pieces ih =>
      cases pieces with
      | nil => exact reads_escape parts t rest
      | cons next pieces =>
          have hjoin : Text.join (Text.of ".*") ((t :: next :: pieces).map escape) ++ rest =
              escape t ++ (Text.of ".*" ++
                (Text.join (Text.of ".*") ((next :: pieces).map escape) ++ rest)) := by
            rw [← List.append_assoc, ← List.append_assoc]
            rfl
          have hparts : ((Expr.between (t :: next :: pieces)).map some).reverse ++ parts =
              ((Expr.between (next :: pieces)).map some).reverse ++
                (some Expr.anything :: (((t.map Expr.character).map some).reverse ++ parts)) := by
            simp [Expr.between]
          rw [hjoin, hparts]
          have hhead := head?_join_escape next pieces h
          exact ((reads_escape parts t _).trans (reads_anything _ hhead)).trans (ih _)

/-- An anchored pattern is read as its parts with anything between, from the start of a text to its
end. -/
theorem read?_anchored (pieces : List Text) :
    read? (Comparison.anchored pieces) =
      some (Expr.sequence (.look .start :: (Expr.between pieces ++ [.look .stop]))) := by
  have hflags : Reads .start (Text.of "(?s)^" ++
      (Text.join (Text.of ".*") (pieces.map escape) ++ ['$']))
      (.flat [some (.look .start), none])
      (Text.join (Text.of ".*") (pieces.map escape) ++ ['$']) := by
    have hset {t : Text} : Reads .start ('(' :: '?' :: 's' :: ')' :: t) (.flat [none]) t :=
      .step rfl rfl (by simp only [List.length_cons]; omega)
    exact hset.trans (.step rfl rfl (Nat.le_refl _))
  have hstop (parts : List (Option Expr)) :
      Reads (.flat parts) ['$'] (.flat (some (.look .stop) :: parts)) [] :=
    .step rfl rfl (Nat.le_refl _)
  have hreads := (hflags.trans (reads_join _ pieces (by decide))).trans (hstop _)
  rw [Comparison.anchored, List.append_assoc, read?_of_reads hreads rfl]
  simp [Reading.flat, OpenGroup.close, OpenGroup.current]

end WordingAudit.Pattern
