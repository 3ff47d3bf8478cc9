import WordingAudit.Proofs.Collection

/-!
Links among the entries of a scanned directory. A link is no directory to a walk, whatever it leads
to, and one with a wanted name is read through. So a scan can fail at such a link, and at nothing
else.
-/

namespace WordingAudit

theorem FileTree.read_eq_ok {t : FileTree} {path : Text} {content : List UInt8} :
    t.read path = .ok content ↔ t.find path = .ok (.file content) := by
  rw [read]
  cases t.find path with
  | error problem => constructor <;> intro h <;> cases h
  | ok node =>
      cases node with
      | file other =>
          constructor <;> intro h <;> cases h
          · rfl
          · rfl
      | link target => constructor <;> intro h <;> cases h
      | directory entries => constructor <;> intro h <;> cases h

namespace Project

variable {w : World} {root : Text} {rules : List CompiledRule} {extensions : Option (List Text)}
  {n : Node}

/-- Names lead to a link that is read, though it does not lead to a file. -/
structure Astray (w : World) (root : Text) (extensions : Option (List Text)) (n : Node)
    (names : List Text) : Prop where
  chosen : n.Chosen extensions names
  link : ∃ target, n.at? names = some (.link target)
  noFile : ∀ content, w.files.find (names.foldl Path.join root) ≠ .ok (.file content)

section Below

variable (hlegal : n.Legal) (hfind : w.files.find root = .ok n) {names : List Text}
include hlegal hfind

/-- What is to be read and is no link can be read. -/
theorem exists_read_of_chosen (hchosen : n.Chosen extensions names)
    (h : ¬Astray w root extensions n names) :
    ∃ content, w.files.read (names.foldl Path.join root) = .ok content := by
  obtain ⟨e, he, hplain⟩ := hchosen.2.1
  cases e with
  | file content => exact ⟨content, FileTree.read_below hlegal hfind he⟩
  | directory entries => cases hplain
  | link target =>
      by_contra hunread
      refine h ⟨hchosen, ⟨target, he⟩, fun content hfile => hunread ⟨content, ?_⟩⟩
      exact FileTree.read_eq_ok.mpr hfile

/-- An entry has an error if it is a link that goes astray. -/
theorem failure?_entryAt (hreaches : n.Reaches names) :
    (Astray w root extensions n names → ∃ problem,
      w.files.read (names.foldl Path.join root) = .error problem ∧
        (n.entryAt root names).failure? w (.ofExtensions extensions) =
          some (.file (names.foldl Path.join root) problem)) ∧
    (¬Astray w root extensions n names →
      (n.entryAt root names).failure? w (.ofExtensions extensions) = none) := by
  constructor
  · intro h
    cases hread : w.files.read (names.foldl Path.join root) with
    | ok content => exact absurd (FileTree.read_eq_ok.mp hread) (h.noFile content)
    | error problem =>
        refine ⟨problem, rfl, WalkEntry.failure?_eq_some.mpr ⟨?_, problem, hread, rfl⟩⟩
        exact (Node.chosen_iff hreaches root).mp h.chosen
  · intro h
    rw [Option.eq_none_iff_forall_ne_some]
    intro error herror
    obtain ⟨hverdict, problem, hread, -⟩ := WalkEntry.failure?_eq_some.mp herror
    have hchosen := (Node.chosen_iff hreaches root).mpr hverdict
    obtain ⟨content, hcontent⟩ := exists_read_of_chosen hlegal hfind hchosen h
    cases hcontent.symm.trans hread

end Below

/-- A scan of a directory succeeds if every link that its settings choose leads to a file. Otherwise
the first link that does not, in the order of names, is the error. Nothing else can fail, and the
rules do not matter. -/
theorem scan_succeeds_iff (hlegal : w.files.top.Legal) (hfind : w.files.find root = .ok n)
    (hdirectory : n.isDirectory = true) :
    ((∃ found, (scan w root ⟨rules, .ofExtensions extensions⟩).run.value = .ok found) ↔
      ∀ names, ¬Astray w root extensions n names) ∧
    ∀ names, Astray w root extensions n names →
      (∀ earlier, earlier < names → ¬Astray w root extensions n earlier) →
      ∃ problem, w.files.read (names.foldl Path.join root) = .error problem ∧
        (scan w root ⟨rules, .ofExtensions extensions⟩).run.value =
          .error (.file (names.foldl Path.join root) problem) := by
  have hnode : n.Legal := FileTree.legal_of_find hlegal hfind
  obtain ⟨places, hascending, hmem, hwalk⟩ := Node.walk_spec hnode
  have hscan : (scan w root ⟨rules, .ofExtensions extensions⟩).run.value =
      (scanEntries w ⟨rules, .ofExtensions extensions⟩ {}
        (places.map (n.entryAt root))).run.value := by
    rw [scan_value, list_value, hfind, ← hwalk]
    simp only [Except.mapError, Except.bind, hdirectory, if_true]
  rw [hscan]
  constructor
  · rw [exists_scanEntries_eq_ok, List.forall_mem_map]
    constructor
    · intro hnone names hastray
      have hreaches := hastray.chosen.1
      obtain ⟨problem, -, hfailure⟩ := (failure?_entryAt hnode hfind hreaches).1 hastray
      rw [hnone names ((hmem names).mpr hreaches)] at hfailure
      cases hfailure
    · intro hnone names hplace
      exact (failure?_entryAt hnode hfind ((hmem names).mp hplace)).2 (hnone names)
  · intro names hastray hfirst
    have hreaches := hastray.chosen.1
    obtain ⟨problem, hread, hfailure⟩ := (failure?_entryAt hnode hfind hreaches).1 hastray
    refine ⟨problem, hread, scanEntries_eq_error.mpr ?_⟩
    obtain ⟨before, after, hplaces⟩ := List.append_of_mem ((hmem names).mpr hreaches)
    rw [hplaces] at hascending
    have hbefore : ∀ e ∈ before.map (n.entryAt root),
        e.failure? w (.ofExtensions extensions) = none := by
      rw [List.forall_mem_map]
      intro earlier hearlier
      have hlt := (List.pairwise_append.mp hascending).2.2 earlier hearlier names
        List.mem_cons_self
      have hplace : earlier ∈ places := hplaces ▸ List.mem_append_left _ hearlier
      exact (failure?_entryAt hnode hfind ((hmem earlier).mp hplace)).2 (hfirst earlier hlt)
    rw [hplaces, List.map_append, List.map_cons, List.findSome?_append,
      List.findSome?_eq_none_iff.mpr hbefore, List.findSome?_cons, hfailure]
    rfl

/-- Two files, one of them also behind a link, and links that lead to nothing, to themselves and to
a directory, each with a name that is left out. -/
def strayLinks : List (Text × Node) := [
  (Text.of "a.ts", .file (Utf8.encode (Text.of "k1"))),
  (Text.of "b.ts", .link (Text.of "a.ts")),
  (Text.of "c.md", .link (Text.of "gone")),
  (Text.of "loop", .link (Text.of "loop")),
  (Text.of "d.x.ts", .link (Text.of "lib")),
  (Text.of "lib", .directory [(Text.of "e.ts", .file [])])]

theorem scan_succeeds_iff_sample :
    (sampleProject strayLinks).files.top.Legal ∧
      ∃ n, (sampleProject strayLinks).files.find (Text.of "p") = .ok n ∧ n.isDirectory = true ∧
        (∀ names, ¬Astray (sampleProject strayLinks) (Text.of "p") (some [Text.of "ts"]) n names) ∧
        ¬∀ names, ¬Astray (sampleProject strayLinks) (Text.of "p") none n names := by
  have hlegal : (sampleProject strayLinks).files.top.Legal := by
    refine .directory (by decide) (by decide) ?_
    rw [List.forall_mem_singleton]
    refine .directory (by decide) (by decide) ?_
    simp only [strayLinks, List.forall_mem_cons]
    refine ⟨.file _, .link _, .link _, .link _, .link _,
      .directory (by decide) (by decide) ?_, nofun⟩
    exact List.forall_mem_singleton.mpr (.file _)
  have hwanted : (scan (sampleProject strayLinks) (Text.of "p")
      ⟨[], .ofExtensions (some [Text.of "ts"])⟩).run.value = .ok ⟨[], 3, 3⟩ := by decide +kernel
  have hall : (scan (sampleProject strayLinks) (Text.of "p") ⟨[], .ofExtensions none⟩).run.value =
      .error (.file (Text.of "p/c.md") .notFound) := by decide +kernel
  refine ⟨hlegal, _, rfl, rfl, ?_, fun hnone => ?_⟩
  · exact (scan_succeeds_iff hlegal rfl rfl).1.mp ⟨_, hwanted⟩
  · obtain ⟨found, hfound⟩ := (scan_succeeds_iff hlegal rfl rfl).1.mpr hnone
    cases hfound.symm.trans hall

/-- A file, an empty directory, and a link beside them. -/
def linkedProject (target : String) : World :=
  sampleProject [
    (Text.of "a.ts", .file (Utf8.encode (Text.of "k1"))),
    (Text.of "b.ts", .link (Text.of target)),
    (Text.of "lib", .directory [])]

theorem legal_linkedProject (target : String) : (linkedProject target).files.top.Legal := by
  have hbelow : [Text.of "a.ts", Text.of "b.ts", Text.of "lib"].Nodup ∧
      ∀ name ∈ [Text.of "a.ts", Text.of "b.ts", Text.of "lib"], Node.IsName name := by decide
  have hname : Node.IsName (Text.of "p") := by decide
  refine .directory (List.nodup_singleton _) (List.forall_mem_singleton.mpr hname)
    (List.forall_mem_singleton.mpr (.directory hbelow.1 (List.forall_mem_map.mp hbelow.2) ?_))
  simp only [List.forall_mem_cons]
  exact ⟨.file _, .link _, .directory List.nodup_nil nofun nofun, nofun⟩

theorem find_linkedProject (target : String) :
    ∃ n, (linkedProject target).files.find (Text.of "p") = .ok n ∧ n.isDirectory = true :=
  ⟨_, rfl, rfl⟩

/-- Nothing is wrong with the files, but a link to a directory, to nothing or to itself ends the
scan. -/
theorem scan_stopped_by_link :
    (∀ target, (linkedProject target).files.top.Legal ∧
      ∃ n, (linkedProject target).files.find (Text.of "p") = .ok n ∧ n.isDirectory = true) ∧
    (scan (linkedProject "lib") (Text.of "p") ⟨[], .any⟩).run.value =
      .error (.file (Text.of "p/b.ts") .isDirectory) ∧
    (scan (linkedProject "gone") (Text.of "p") ⟨[], .any⟩).run.value =
      .error (.file (Text.of "p/b.ts") .notFound) ∧
    (scan (linkedProject "b.ts") (Text.of "p") ⟨[], .any⟩).run.value =
      .error (.file (Text.of "p/b.ts") .tooManyLinks) := by
  refine ⟨fun target => ⟨legal_linkedProject target, find_linkedProject target⟩, ?_, ?_, ?_⟩
  · decide +kernel
  · decide +kernel
  · decide +kernel

end Project

end WordingAudit
