import WordingAudit.Proofs.Pattern.Groups
import WordingAudit.Proofs.Lists
import WordingAudit.Rule.Template

/-!
Replacements as one scan of the text they are written in. A template is made of references in braces
and of doubled dollar signs, so that expanding it gives back what the scan of the replacement puts
in for each dollar sign, whatever stands next to it.
-/

namespace WordingAudit.Template

variable (p : Pattern) (m : Pattern.Match) (subject : Text)

/-- The text of a group by its number, empty when the group takes no part in the occurrence. -/
def groupAt (n : Nat) : Text := (m.text? subject n).getD []

/-- The group whose number the first `count` characters of a text are, if they are all digits and
the pattern has such a group. -/
def groupByDigits? (count : Nat) (t : Text) : Option Nat :=
  let digits := t.take count
  let n := digits.foldl (fun n d => 10 * n + (d.toNat - 48)) 0
  if digits.length = count && digits.all Char.isDigit && 1 ≤ n && n ≤ p.groupCount then some n
  else none

/-- The group whose name stands in angle brackets at the beginning of a text, with the length of the
name. -/
def groupByName? : Text → Option (Nat × Nat)
  | '<' :: rest =>
    let name := rest.takeWhile (· != '>')
    if name.length < rest.length then
      (p.groupNames.findIdx? (· = some name)).map fun n => (n, name.length)
    else none
  | _ => none

/-- What a replacement puts in for a dollar sign that `t` follows, and how many characters of `t`
belong to the dollar sign. -/
def insertion (t : Text) : Text × Nat :=
  match groupByDigits? p 2 t with
  | some n => (groupAt m subject n, 2)
  | none =>
    match groupByDigits? p 1 t with
    | some n => (groupAt m subject n, 1)
    | none =>
      if t.head? = some '$' then (['$'], 1)
      else if t.head? = some '&' then (subject.slice m.span.start m.span.stop, 1)
      else
        match groupByName? p t with
        | some (n, length) => (groupAt m subject n, length + 2)
        | none => (['$'], 0)

/-- What a replacement puts in for an occurrence, in one scan from left to right. -/
def expansion : Text → Text
  | [] => []
  | c :: rest =>
    if c = '$' then
      (insertion p m subject rest).1 ++ expansion (rest.drop (insertion p m subject rest).2)
    else c :: expansion rest
termination_by t => t.length
decreasing_by
  · rw [List.length_drop, List.length_cons]
    omega
  · exact Nat.lt_succ_self _

variable {p m subject}

theorem translate_skip (groups : Nat) (names : List Text) (skip : Nat) (t : Text) :
    translate groups names skip t = translate groups names 0 (t.drop skip) := by
  induction t generalizing skip with
  | nil => rw [List.drop_nil, translate, translate]
  | cons c rest ih =>
      cases skip with
      | zero => rfl
      | succ skip =>
          rw [translate, if_pos (Nat.succ_pos skip), Nat.add_sub_cancel, ih, List.drop_succ_cons]

theorem expandFrom_skip (skip : Nat) (t : Text) :
    expandFrom p m subject skip t = expandFrom p m subject 0 (t.drop skip) := by
  induction t generalizing skip with
  | nil => rw [List.drop_nil, expandFrom, expandFrom]
  | cons c rest ih =>
      cases skip with
      | zero => rfl
      | succ skip =>
          rw [List.drop_succ_cons, ← ih skip]
          rw [expandFrom.eq_def]
          exact if_pos (Nat.succ_pos skip)

theorem expandFrom_cons {c : Char} (hc : c ≠ '$') (t : Text) :
    expandFrom p m subject 0 (c :: t) = c :: expandFrom p m subject 0 t := by
  rw [expandFrom.eq_def]
  exact (if_neg (Nat.lt_irrefl 0)).trans (if_neg hc)

theorem expandFrom_dollars (t : Text) :
    expandFrom p m subject 0 ('$' :: '$' :: t) = '$' :: expandFrom p m subject 0 t := by
  rw [expandFrom.eq_def]
  refine (if_neg (Nat.lt_irrefl 0)).trans ((if_pos rfl).trans ?_)
  exact congrArg ('$' :: ·) (expandFrom_skip 1 ('$' :: t))

theorem expandFrom_reference {name : Text} (h : '\x7d' ∉ name) (t : Text) :
    expandFrom p m subject 0 (reference name ++ t) =
      groupText p m subject name ++ expandFrom p m subject 0 t := by
  have hread : readReference? ('\x7b' :: (name ++ '\x7d' :: t)) = some (name, name.length + 2) := by
    rw [readReference?, Text.splitOnce_append h]
    rfl
  have hdrop : ('\x7b' :: (name ++ '\x7d' :: t)).drop (name.length + 2) = t := by
    rw [List.drop_succ_cons, ← List.drop_drop, List.drop_left, List.drop_one, List.tail_cons]
  have htext : reference name ++ t = '$' :: '\x7b' :: (name ++ '\x7d' :: t) := by
    simp [reference]
  rw [htext, expandFrom.eq_def]
  refine (if_neg (Nat.lt_irrefl 0)).trans ((if_pos rfl).trans ?_)
  rw [hread]
  exact congrArg _ ((expandFrom_skip _ _).trans (congrArg _ hdrop))

theorem foldl_digits_lt {digits : Text} (h : digits.all Char.isDigit) {n bound : Nat}
    (hn : n < bound) :
    digits.foldl (fun n d => 10 * n + (d.toNat - 48)) n < bound * Nat.pow 10 digits.length := by
  induction digits generalizing n bound with
  | nil => simpa using hn
  | cons d rest ih =>
      rw [List.all_cons, Bool.and_eq_true] at h
      have hd : d.toNat - 48 < 10 := by
        have hle : d.toNat ≤ 57 := (Char.isDigit_iff_toNat.mp h.1).2
        omega
      have hrest := ih h.2 (show 10 * n + (d.toNat - 48) < bound * 10 by omega)
      have hpow : Nat.pow 10 (d :: rest).length = Nat.pow 10 rest.length * 10 := rfl
      rw [hpow, Nat.mul_comm _ 10, ← Nat.mul_assoc]
      exact hrest

theorem groupByDigits?_eq_some {count n : Nat} {t : Text} (h : groupByDigits? p count t = some n) :
    n < Nat.pow 10 count := by
  rw [groupByDigits?] at h
  split at h
  · rename_i hcond
    cases h
    simp only [Bool.and_eq_true, decide_eq_true_eq] at hcond
    obtain ⟨⟨⟨hlength, hdigits⟩, -⟩, -⟩ := hcond
    have hlt := foldl_digits_lt hdigits Nat.one_pos
    rw [hlength, Nat.one_mul] at hlt
    exact hlt
  · cases h

theorem groupDigits?_eq (t : Text) :
    groupDigits? p.groupCount t =
      ((groupByDigits? p 2 t).map (·, 2)).or ((groupByDigits? p 1 t).map (·, 1)) := by
  cases t with
  | nil => rfl
  | cons c rest =>
      by_cases hc : c.isDigit
      · have hone : groupByDigits? p 1 (c :: rest) =
            if 1 ≤ c.toNat - 48 && c.toNat - 48 ≤ p.groupCount then some (c.toNat - 48)
            else none := by
          simp [groupByDigits?, hc]
        have hdigit : digit? c = some (c.toNat - 48) := if_pos hc
        rw [hone, groupDigits?, hdigit, Option.bind_some]
        cases rest with
        | nil => simp [groupByDigits?]
        | cons d rest =>
            by_cases hd : d.isDigit
            · have htwo : groupByDigits? p 2 (c :: d :: rest) =
                  (some (10 * (c.toNat - 48) + (d.toNat - 48))).filter
                    fun n => 1 ≤ n && n ≤ p.groupCount := by
                simp [groupByDigits?, hc, hd, Option.filter]
              have hsecond : digit? d = some (d.toNat - 48) := if_pos hd
              rw [htwo, List.head?_cons, Option.bind_some, hsecond, Option.map_some]
              dsimp only
              generalize Option.filter _ (some (10 * (c.toNat - 48) + (d.toNat - 48))) = two
              cases two with
              | none =>
                  rw [Option.map_none, Option.none_or]
                  dsimp only
                  split <;> rfl
              | some n => rfl
            · simp [groupByDigits?, digit?, hd]
      · simp [groupDigits?, groupByDigits?, digit?, hc]

theorem mem_filterMap_groupNames {name : Text} :
    name ∈ p.groupNames.filterMap id ↔ some name ∈ p.groupNames := by
  simp

/-- Both scans look for the same name, and find it in the same group. -/
theorem groupByName?_eq (t : Text) :
    groupByName? p t = (groupName? (p.groupNames.filterMap id) t).bind fun name =>
      (p.groupNames.findIdx? (· = some name)).map fun n => (n, name.length) := by
  rw [groupByName?.eq_def]
  split
  · rename_i rest
    have hsplit := Text.splitOnce_eq_takeWhile rest '>'
    rw [groupName?]
    dsimp only
    generalize rest.takeWhile (· != '>') = name at hsplit ⊢
    split at hsplit
    · rename_i hlength
      obtain ⟨⟨_, after⟩, hends, rfl⟩ := Option.map_eq_some_iff.mp hsplit
      rw [if_pos hlength, hends, Option.bind_some]
      dsimp only
      split
      · rfl
      · rename_i hname
        rw [Option.bind_none, List.findIdx?_eq_none_iff.mpr, Option.map_none]
        intro other hother
        rw [decide_eq_false_iff_not]
        rintro rfl
        exact hname (List.contains_iff_mem.mpr (mem_filterMap_groupNames.mpr hother))
    · rename_i hlength
      rw [if_neg hlength, Option.map_eq_none_iff.mp hsplit]
      rfl
  · rename_i hbracket
    rw [groupName?]
    · rfl
    · exact hbracket

theorem mem_groupNames_of_groupName? {t name : Text}
    (h : groupName? (p.groupNames.filterMap id) t = some name) : some name ∈ p.groupNames := by
  rw [groupName?.eq_def] at h
  split at h
  · obtain ⟨⟨_, after⟩, -, h⟩ := Option.bind_eq_some_iff.mp h
    dsimp only at h
    split at h
    · rename_i hcontains
      cases h
      exact mem_filterMap_groupNames.mp (List.contains_iff_mem.mp hcontains)
    · cases h
  · cases h

theorem findIdx?_of_mem {name : Text} (h : some name ∈ p.groupNames) :
    ∃ n, p.groupNames.findIdx? (· = some name) = some n := by
  rw [← Option.isSome_iff_exists, List.findIdx?_isSome, List.any_eq_true]
  exact ⟨some name, h, decide_eq_true rfl⟩

theorem referenceNumber?_ofNat : ∀ n < 100, referenceNumber? (Text.ofNat n) = some n := by
  decide

theorem brace_not_mem_ofNat : ∀ n < 100, '\x7d' ∉ Text.ofNat n := by
  decide

theorem groupText_of_number {n : Nat} {name : Text} (h : referenceNumber? name = some n) :
    groupText p m subject name = groupAt m subject n := by
  rw [groupText, h]
  rfl

theorem groupText_of_name {n : Nat} {name : Text} (h : Pattern.IsGroupName name)
    (hn : p.groupNames.findIdx? (· = some name) = some n) :
    groupText p m subject name = groupAt m subject n := by
  have hnumber : referenceNumber? name = none := by
    rw [referenceNumber?, h.not_all_digits, Bool.not_false, Bool.or_true, if_pos rfl]
  rw [groupText, hnumber]
  dsimp only
  rw [hn]
  rfl

theorem expandFrom_ofNat {n : Nat} (hn : n < 100) (t : Text) :
    expandFrom p m subject 0 (reference (Text.ofNat n) ++ t) =
      groupAt m subject n ++ expandFrom p m subject 0 t := by
  rw [expandFrom_reference (brace_not_mem_ofNat n hn),
    groupText_of_number (referenceNumber?_ofNat n hn)]

/-- What a dollar sign becomes in a template expands to what the scan puts in for it, and both take
the same number of characters. -/
theorem expandFrom_afterDollar
    (hnames : ∀ name, some name ∈ p.groupNames → Pattern.IsGroupName name)
    (hwhole : groupAt m subject 0 = subject.slice m.span.start m.span.stop) (t rest : Text) :
    (afterDollar p.groupCount (p.groupNames.filterMap id) t).2 = (insertion p m subject t).2 ∧
      expandFrom p m subject 0
          ((afterDollar p.groupCount (p.groupNames.filterMap id) t).1 ++ rest) =
        (insertion p m subject t).1 ++ expandFrom p m subject 0 rest := by
  rw [afterDollar.eq_def, insertion.eq_def, groupDigits?_eq]
  cases htwo : groupByDigits? p 2 t with
  | some n => exact ⟨rfl, expandFrom_ofNat (groupByDigits?_eq_some htwo) rest⟩
  | none =>
      cases hone : groupByDigits? p 1 t with
      | some n =>
          have hlt : n < 10 := groupByDigits?_eq_some hone
          exact ⟨rfl, expandFrom_ofNat (by omega) rest⟩
      | none =>
          dsimp only [Option.map_none, Option.none_or]
          split
          · exact ⟨rfl, expandFrom_dollars rest⟩
          · refine ⟨rfl, ?_⟩
            rw [List.head?_cons, if_neg (by decide), if_pos rfl, ← hwhole]
            exact expandFrom_ofNat (n := 0) (by decide) rest
          · rename_i hdollar hampersand
            have hhead {c : Char} (hc : ∀ tail, t = c :: tail → False) : t.head? ≠ some c := by
              intro heq
              obtain ⟨tail, htail⟩ := List.head?_eq_some_iff.mp heq
              exact hc tail htail
            rw [if_neg (hhead hdollar), if_neg (hhead hampersand), groupByName?_eq]
            cases hname : groupName? (p.groupNames.filterMap id) t with
            | none => exact ⟨rfl, expandFrom_dollars rest⟩
            | some name =>
                have hmem := mem_groupNames_of_groupName? hname
                obtain ⟨n, hn⟩ := findIdx?_of_mem hmem
                dsimp only
                rw [Option.bind_some, hn]
                refine ⟨rfl, ?_⟩
                dsimp only [Option.map_some]
                rw [expandFrom_reference (hnames name hmem).brace_not_mem,
                  groupText_of_name (hnames name hmem) hn]

theorem expandFrom_translate
    (hnames : ∀ name, some name ∈ p.groupNames → Pattern.IsGroupName name)
    (hwhole : groupAt m subject 0 = subject.slice m.span.start m.span.stop) (t : Text) :
    expandFrom p m subject 0 (translate p.groupCount (p.groupNames.filterMap id) 0 t) =
      expansion p m subject t := by
  fun_induction expansion p m subject t with
  | case1 => rfl
  | case2 rest ih =>
      obtain ⟨hused, htext⟩ := expandFrom_afterDollar hnames hwhole rest
        (translate p.groupCount (p.groupNames.filterMap id) 0
          (rest.drop (insertion p m subject rest).2))
      rw [translate, if_neg (Nat.lt_irrefl 0), if_pos rfl]
      dsimp only
      rw [translate_skip, hused, htext, ih]
  | case3 c rest hc ih =>
      rw [translate, if_neg (Nat.lt_irrefl 0), if_neg hc, expandFrom_cons hc, ih]

/-- The whole occurrence is the text of group 0. -/
theorem groupAt_zero {c : Pattern.Cursor} (h : p.findAt c = some m) :
    groupAt m subject 0 = subject.slice m.span.start m.span.stop := by
  rw [groupAt, Pattern.Match.text?, Pattern.group?_zero h]
  rfl

/-- Expanding the template of a replacement gives what one scan of the replacement puts in for the
occurrence, and no replacement puts nothing in. -/
theorem expand_ofReplacement {source : Text} (h : Pattern.ofText? source = some p)
    (replacement : Option Text) (subject : Text) :
    (∀ c m, p.findAt c = some m → expand p (ofReplacement p replacement) subject m =
      replacement.elim [] (expansion p m subject)) ∧
    replaceIn p (ofReplacement p replacement) subject =
      p.replaceFirst (fun m => replacement.elim [] (expansion p m subject)) subject := by
  have hexpand : ∀ c m, p.findAt c = some m → expand p (ofReplacement p replacement) subject m =
      replacement.elim [] (expansion p m subject) := by
    intro c m hm
    cases replacement with
    | none => rfl
    | some t =>
        exact expandFrom_translate (fun _ hname => Pattern.isGroupName_of_mem_groupNames h hname)
          (groupAt_zero hm) t
  refine ⟨hexpand, ?_⟩
  rw [replaceIn, Pattern.replaceFirst, Pattern.replaceFirst]
  cases hfind : p.find subject with
  | none => rfl
  | some m =>
      dsimp only
      rw [hexpand _ m hfind]

theorem expand_ofReplacement_sample :
    ∃ p, Pattern.ofText? (Text.of "(?<y>a)(b)?(c)") = some p ∧
      (∀ c m, p.findAt c = some m →
        expand p (ofReplacement p (some (Text.of "$$1$<y>_$10$32$4$<z>$&$"))) (Text.of "zac") m =
          expansion p m (Text.of "zac") (Text.of "$$1$<y>_$10$32$4$<z>$&$")) ∧
      replaceIn p (ofReplacement p (some (Text.of "$$1$<y>_$10$32$4$<z>$&$"))) (Text.of "zac") =
        Text.of "z$1a_a0c2$4$<z>ac$" := by
  have hvalue : ((Pattern.ofText? (Text.of "(?<y>a)(b)?(c)")).map fun p =>
      replaceIn p (ofReplacement p (some (Text.of "$$1$<y>_$10$32$4$<z>$&$"))) (Text.of "zac")) =
        some (Text.of "z$1a_a0c2$4$<z>ac$") := by decide +kernel
  obtain ⟨p, hp, hvalue⟩ := Option.map_eq_some_iff.mp hvalue
  exact ⟨p, hp, (expand_ofReplacement hp _ (Text.of "zac")).1, hvalue⟩

end WordingAudit.Template
