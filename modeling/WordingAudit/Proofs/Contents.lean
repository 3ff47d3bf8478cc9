import WordingAudit.Proofs.Collection
import WordingAudit.Proofs.Selection

/-!
What a scan reads does not depend on its rules. They come in only once all contents are there, so
the order in which rules and files take turns does not show in the set of the keys.
-/

namespace WordingAudit

open Traced

namespace CompiledRule

/-- The keys that rules take from the contents of files, file by file. -/
def keysOf (rules : List CompiledRule) (contents : List (List UInt8)) : List Text :=
  contents.flatMap fun c => (applyAll rules (Utf8.decodeLossy c)).value

variable {rules others : List CompiledRule} {contents : List (List UInt8)} {key : Text}

theorem mem_keysOf :
    key ∈ keysOf rules contents ↔ ∃ c ∈ contents, ∃ r ∈ rules,
      key ∈ CompiledStep.keys r.steps (Utf8.decodeLossy c) := by
  simp only [keysOf, applyAll_value, List.mem_flatMap]

theorem mem_keysOf_append :
    key ∈ keysOf (rules ++ others) contents ↔
      key ∈ keysOf rules contents ∨ key ∈ keysOf others contents := by
  simp only [mem_keysOf, List.mem_append, or_and_right, exists_or, and_or_left]

end CompiledRule

namespace Project

open CompiledRule (keysOf)

variable {w : World} {selector : FileSelector}

/-- The contents of the entries that are to be read, in order, or the error of the first that cannot
be read. -/
def readAll (w : World) (selector : FileSelector) (entries : List WalkEntry) :
    Except AuditError (List (List UInt8)) :=
  (entries.filter fun e => e.verdict selector = .read).mapM fun e =>
    (w.files.read e.path).mapError (AuditError.file e.path)

/-- The contents of the files below a directory that are to be read. -/
def contents (w : World) (root : Text) (selector : FileSelector) :
    Except AuditError (List (List UInt8)) :=
  (list w root).run.value.bind (readAll w selector)

theorem readAll_nil (w : World) (selector : FileSelector) : readAll w selector [] = .ok [] := rfl

theorem readAll_cons (e : WalkEntry) (rest : List WalkEntry) :
    readAll w selector (e :: rest) =
      if e.verdict selector = .read then
        ((w.files.read e.path).mapError (AuditError.file e.path)).bind fun content =>
          (readAll w selector rest).map (content :: ·)
      else readAll w selector rest := by
  rw [readAll, List.filter_cons]
  by_cases h : e.verdict selector = .read
  · rw [if_pos (by simpa using h), if_pos h, List.mapM_cons, ← readAll]
    rfl
  · rw [if_neg (by simpa using h), if_neg h, ← readAll]

theorem scanEntries_keys (rules : List CompiledRule) (found : ScanOutcome)
    (entries : List WalkEntry) :
    (scanEntries w ⟨rules, selector⟩ found entries).run.value.map ScanOutcome.keys =
      (readAll w selector entries).map fun contents => found.keys ++ keysOf rules contents := by
  induction entries generalizing found with
  | nil =>
      exact congrArg Except.ok (List.append_nil found.keys).symm
  | cons e rest ih =>
      rw [scanEntries, readAll_cons]
      cases e.verdict selector with
      | enter => exact ih found
      | skip reason => exact ih { found with skipped := found.skipped + 1 }
      | read =>
          dsimp only
          rw [if_pos rfl, value_run_bind, scanFile_value]
          cases w.files.read e.path with
          | error problem => rfl
          | ok content =>
              refine (ih _).trans ?_
              rw [Except.mapError, Except.bind]
              cases readAll w selector rest with
              | error e => rfl
              | ok contents => exact congrArg Except.ok (List.append_assoc _ _ _)

/-- The keys of a project with these rules, or why there are none. -/
def keysWith (w : World) (root : Option Text) (selector : FileSelector)
    (rules : List CompiledRule) : Except AuditError KeySet :=
  (keys w root (some ⟨rules, selector⟩)).run.value

variable {root : Option Text} {rules rules' first second : List CompiledRule}

/-- All that the rules decide is which keys are taken from the contents. -/
theorem keysWith_some (h : rules ≠ []) (root : Text) :
    keysWith w (some root) selector rules =
      (contents w root selector).map fun contents => KeySet.ofList (keysOf rules contents) := by
  have hkeys : ∀ x : Except AuditError ScanOutcome,
      (x.map fun found => KeySet.ofList found.keys) = (x.map ScanOutcome.keys).map KeySet.ofList :=
    fun x => by cases x <;> rfl
  rw [keysWith, keys_value, if_neg (by simpa using h), hkeys, scan_value, contents]
  cases (list w root).run.value with
  | error e => rfl
  | ok entries =>
      refine (congrArg (Except.map KeySet.ofList) (scanEntries_keys rules {} entries)).trans ?_
      rw [Except.bind]
      cases readAll w selector entries <;> rfl

/-- Whether the keys are found, and why not, is the same for all rules. -/
theorem keysWith_eq_error (hrules : rules ≠ []) (hrules' : rules' ≠ []) {e : AuditError} :
    keysWith w root selector rules = .error e ↔ keysWith w root selector rules' = .error e := by
  cases root with
  | none => exact Iff.rfl
  | some root =>
      rw [keysWith_some hrules, keysWith_some hrules', Result.map_eq_error, Result.map_eq_error]

theorem keysWith_congr (h : ∀ r, r ∈ rules ↔ r ∈ rules') :
    keysWith w root selector rules = keysWith w root selector rules' := by
  by_cases hrules : rules = []
  · have hrules' : rules' = [] := List.eq_nil_iff_forall_not_mem.mpr fun r hr =>
      List.not_mem_nil (hrules ▸ (h r).mpr hr)
    rw [hrules, hrules']
  · have hrules' : rules' ≠ [] := by
      rintro rfl
      exact hrules (List.eq_nil_iff_forall_not_mem.mpr fun r hr => List.not_mem_nil ((h r).mp hr))
    cases root with
    | none => rfl
    | some root =>
        rw [keysWith_some hrules, keysWith_some hrules']
        refine congrArg (fun f => Except.map f _) (funext fun contents => ?_)
        refine KeySet.eq_of_mem_iff fun key => ?_
        simp only [KeySet.mem_ofList, CompiledRule.mem_keysOf, h]

/-- With the rules of two lists a project has the keys that it has with each list, put together. If
it has none because of an error, the error is the same for both lists and for each. It does not
matter in which order rules stand and how often. -/
theorem keys_joined_rules (w : World) (root : Option Text) (selector : FileSelector)
    (hfirst : first ≠ []) (hsecond : second ≠ []) :
    (∀ e, keysWith w root selector (first ++ second) = .error e ↔
      keysWith w root selector first = .error e) ∧
    (∀ e, keysWith w root selector first = .error e ↔
      keysWith w root selector second = .error e) ∧
    (∀ s, keysWith w root selector (first ++ second) = .ok s → ∃ a b,
      keysWith w root selector first = .ok a ∧ keysWith w root selector second = .ok b ∧
        s = KeySet.ofList (a.toList ++ b.toList)) ∧
    ∀ rules rules', (∀ r, r ∈ rules ↔ r ∈ rules') →
      keysWith w root selector rules = keysWith w root selector rules' := by
  have hboth : first ++ second ≠ [] := List.append_ne_nil_of_left_ne_nil hfirst second
  refine ⟨fun e => keysWith_eq_error hboth hfirst, fun e => keysWith_eq_error hfirst hsecond,
    fun s h => ?_, fun rules rules' => keysWith_congr⟩
  cases root with
  | none => cases h
  | some root =>
      rw [keysWith_some hboth] at h
      obtain ⟨contents, hcontents, rfl⟩ := Result.map_eq_ok.mp h
      rw [keysWith_some hfirst, keysWith_some hsecond, hcontents]
      refine ⟨_, _, rfl, rfl, ?_⟩
      refine KeySet.eq_of_mem_iff fun key => ?_
      simp only [KeySet.mem_ofList, List.mem_append, CompiledRule.mem_keysOf_append]

/-- Two rules that take different keys, and some keys in common, from a project with two files. -/
theorem keys_joined_rules_sample : ∃ first second : CompiledRule,
    [first] ≠ [] ∧ [second] ≠ [] ∧
      keysWith (sampleProject sampleEntries) (some (Text.of "p")) .any [first] =
        .ok ⟨[Text.of "k1", Text.of "k2"], by decide⟩ ∧
      keysWith (sampleProject sampleEntries) (some (Text.of "p")) .any [second] =
        .ok ⟨[Text.of "1", Text.of "k2"], by decide⟩ ∧
      keysWith (sampleProject sampleEntries) (some (Text.of "p")) .any [first, second] =
        .ok ⟨[Text.of "1", Text.of "k1", Text.of "k2"], by decide⟩ ∧
      (∀ e, keysWith (sampleProject sampleEntries) (some (Text.of "q")) .any [first, second] =
        .error e ↔ e = .file (Text.of "q") .notFound) ∧
      keysWith (sampleProject sampleEntries) (some (Text.of "p")) .any [second, first, second] =
        keysWith (sampleProject sampleEntries) (some (Text.of "p")) .any [first, second] := by
  have hkeys : ((Pattern.ofText? (Text.of "k[0-9]")).bind fun p =>
      (Pattern.ofText? (Text.of "k2|1")).map fun q =>
        (keysWith (sampleProject sampleEntries) (some (Text.of "p")) .any [⟨.extract p 0, []⟩],
          keysWith (sampleProject sampleEntries) (some (Text.of "p")) .any [⟨.extract q 0, []⟩],
          keysWith (sampleProject sampleEntries) (some (Text.of "q")) .any
            [⟨.extract p 0, []⟩])) =
      some (.ok ⟨[Text.of "k1", Text.of "k2"], by decide⟩,
        .ok ⟨[Text.of "1", Text.of "k2"], by decide⟩,
        .error (.file (Text.of "q") .notFound)) := by decide +kernel
  obtain ⟨p, -, hkeys⟩ := Option.bind_eq_some_iff.mp hkeys
  obtain ⟨q, -, hkeys⟩ := Option.map_eq_some_iff.mp hkeys
  obtain ⟨hfirst, hrest⟩ := Prod.mk.inj hkeys
  obtain ⟨hsecond, hmissing⟩ := Prod.mk.inj hrest
  generalize (⟨.extract p 0, []⟩ : CompiledRule) = first at hfirst hmissing
  generalize (⟨.extract q 0, []⟩ : CompiledRule) = second at hsecond
  have hone : [first] ≠ [] := List.cons_ne_nil _ _
  have hother : [second] ≠ [] := List.cons_ne_nil _ _
  obtain ⟨hfails, -, hjoined, hsame⟩ :=
    keys_joined_rules (sampleProject sampleEntries) (some (Text.of "p")) .any hone hother
  obtain ⟨hfailsBelow, -⟩ :=
    keys_joined_rules (sampleProject sampleEntries) (some (Text.of "q")) .any hone hother
  refine ⟨first, second, hone, hother, hfirst, hsecond, ?_, fun e => ?_, ?_⟩
  · cases hboth : keysWith (sampleProject sampleEntries) (some (Text.of "p")) .any
        ([first] ++ [second]) with
    | error e => cases hfirst.symm.trans ((hfails e).mp hboth)
    | ok s =>
        obtain ⟨a, b, ha, hb, rfl⟩ := hjoined s hboth
        cases hfirst.symm.trans ha
        cases hsecond.symm.trans hb
        exact hboth
  · refine (hfailsBelow e).trans ?_
    rw [hmissing]
    exact ⟨fun h => (Except.error.inj h).symm, fun h => congrArg Except.error h.symm⟩
  · refine hsame [second, first, second] [first, second] fun r => ?_
    simp only [List.mem_cons, List.not_mem_nil, or_false]
    tauto

end Project

end WordingAudit
