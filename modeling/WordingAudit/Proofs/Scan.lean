import WordingAudit.Proofs.Chain
import WordingAudit.Proofs.Walk

/-!
What a scan of a project reads. It reads the files that its settings choose, in the order of their
names, and counts what it leaves out; the order in which directories list their entries does not
matter.
-/

namespace WordingAudit

/-- An extension that a setting asks for, where dots in front of it do not count; without a setting
every extension is wanted. -/
def Wanted (extensions : Option (List Text)) (extension : Text) : Prop :=
  ∀ list, extensions = some list → ∃ e ∈ list, e.dropWhile (· = '.') = extension

/-- A name with one dot, and behind the dot a wanted extension. -/
def WantedName (extensions : Option (List Text)) (name : Text) : Prop :=
  ∃ stem extension, name = stem ++ '.' :: extension ∧ '.' ∉ stem ∧ '.' ∉ extension ∧
    Wanted extensions extension

variable {extensions : Option (List Text)}

theorem accepts_ofExtensions {extension : Text} :
    (FileSelector.ofExtensions extensions).accepts extension = true ↔
      Wanted extensions extension := by
  cases extensions with
  | none => simp [FileSelector.ofExtensions, FileSelector.accepts, Wanted]
  | some list => simp [FileSelector.ofExtensions, FileSelector.accepts, Wanted]

namespace WalkEntry

variable {e : WalkEntry} {selector : FileSelector}

theorem verdict_eq_enter : e.verdict selector = .enter ↔ e.isDirectory = true ∧ '.' ∉ e.name := by
  rw [verdict, ← NameShape.ofName_eq_directory]
  cases NameShape.ofName e.name with
  | directory => cases e.isDirectory <;> simp
  | multiDot => simp
  | file extension =>
      simp only [reduceCtorEq, and_false, iff_false]
      split
      · simp
      · split <;> simp

theorem verdict_eq_read :
    e.verdict (.ofExtensions extensions) = .read ↔
      e.isDirectory = false ∧ WantedName extensions e.name := by
  have hwanted : WantedName extensions e.name ↔
      ∃ extension, NameShape.ofName e.name = .file extension ∧ Wanted extensions extension := by
    simp only [NameShape.ofName_eq_file]
    constructor
    · rintro ⟨stem, extension, hname, hstem, hextension, hwant⟩
      exact ⟨extension, ⟨stem, hname, hstem, hextension⟩, hwant⟩
    · rintro ⟨extension, ⟨stem, hname, hstem, hextension⟩, hwant⟩
      exact ⟨stem, extension, hname, hstem, hextension, hwant⟩
  rw [verdict, hwanted]
  cases NameShape.ofName e.name with
  | directory => cases e.isDirectory <;> simp
  | multiDot => simp
  | file extension =>
      simp only [NameShape.file.injEq, exists_eq_left']
      rw [← accepts_ofExtensions]
      cases e.isDirectory with
      | true => simp
      | false => cases (FileSelector.ofExtensions extensions).accepts extension <;> simp

/-- Whether an entry is left out, for whatever reason. -/
def leftOut (selector : FileSelector) (e : WalkEntry) : Bool :=
  match e.verdict selector with
  | .skip _ => true
  | _ => false

theorem leftOut_iff :
    e.leftOut selector = true ↔ e.verdict selector ≠ .enter ∧ e.verdict selector ≠ .read := by
  rw [leftOut]
  cases e.verdict selector <;> simp

end WalkEntry

namespace Node

variable {n : Node} {names : List Text}

/-- Names lead to a file that is read: one that a walk comes to, that is no directory, and whose
name has one dot and a wanted extension. -/
def Chosen (extensions : Option (List Text)) (n : Node) (names : List Text) : Prop :=
  n.Reaches names ∧ (∃ e, n.at? names = some e ∧ e.isDirectory = false) ∧
    ∃ name, names.getLast? = some name ∧ WantedName extensions name

/-- Names lead to a directory that is entered. -/
def Entered (n : Node) (names : List Text) : Prop :=
  n.Reaches names ∧ (∃ e, n.at? names = some e ∧ e.isDirectory = true) ∧
    ∃ name, names.getLast? = some name ∧ '.' ∉ name

theorem entryAt_of_reaches (h : n.Reaches names) (path : Text) :
    ∃ name e, names.getLast? = some name ∧ n.at? names = some e ∧
      n.entryAt path names = ⟨names.foldl Path.join path, name, e.isDirectory⟩ := by
  obtain ⟨e, he⟩ := Option.isSome_iff_exists.mp h.found
  refine ⟨names.getLast h.ne_nil, e, List.getLast?_eq_some_getLast h.ne_nil, he, ?_⟩
  rw [entryAt, he, List.getLastD_eq_getLast?, List.getLast?_eq_some_getLast h.ne_nil]
  rfl

theorem chosen_iff (h : n.Reaches names) (path : Text) :
    n.Chosen extensions names ↔
      (n.entryAt path names).verdict (.ofExtensions extensions) = .read := by
  obtain ⟨name, e, hname, he, hentry⟩ := entryAt_of_reaches h path
  simp [Chosen, h, hname, he, hentry, WalkEntry.verdict_eq_read]

theorem entered_iff (h : n.Reaches names) (path : Text) (selector : FileSelector) :
    n.Entered names ↔ (n.entryAt path names).verdict selector = .enter := by
  obtain ⟨name, e, hname, he, hentry⟩ := entryAt_of_reaches h path
  simp [Entered, h, hname, he, hentry, WalkEntry.verdict_eq_enter]

end Node

open Traced

/-- The path of the file that an action reads, if it reads one. -/
def Action.read? : Action → Option Text
  | readFile path => some path
  | _ => none

namespace Traced

variable {α β ε : Type}

/-- The paths of the files that a computation reads, in order. -/
def reads (x : Traced α) : List Text := x.actions.filterMap Action.read?

theorem reads_eq_nil {x : Traced α} (h : Only (fun a => a.read? = none) x) : x.reads = [] :=
  List.filterMap_eq_nil_iff.mpr h

theorem reads_run_bind {x : ExceptT ε Traced α} {a : α} (h : x.run.value = .ok a)
    (f : α → ExceptT ε Traced β) : (x >>= f).run.reads = x.run.reads ++ (f a).run.reads := by
  rw [reads, (run_bind_ok h f).2, List.filterMap_append]
  rfl

end Traced

namespace Project

variable {w w' : World} {root path : Text} {rules : List CompiledRule} {project : ProjectRules}

theorem scanFile_spec {keys : List Text} (h : (scanFile w rules path).run.value = .ok keys) :
    ∃ content, w.files.read path = .ok content ∧
      keys = (CompiledRule.applyAll rules (Utf8.decodeLossy content)).value ∧
      (scanFile w rules path).run.reads = [path] := by
  have hreport : (Audited.report (.file path)).run.value = .ok () := rfl
  rw [scanFile, (run_bind_ok hreport _).1, value_run_bind] at h
  obtain ⟨content, hcontent, hkeys⟩ := Result.bind_eq_ok.mp h
  have hread : w.files.read path = .ok content := Result.mapError_eq_ok.mp hcontent
  have hnothing : (CompiledRule.applyAll rules (Utf8.decodeLossy content)).reads = [] :=
    reads_eq_nil (only_flatMap fun r _ => CompiledStep.only_chain (fun _ _ _ => rfl) 0 r.steps _)
  refine ⟨content, hread, (Except.ok.inj hkeys).symm, ?_⟩
  rw [scanFile, reads_run_bind hreport, reads_run_bind hcontent, Audited.ofTraced, reads,
    reads, reads, (run_lift _).2]
  exact congrArg ([path] ++ ·) hnothing

variable {α : Type} {entry : α → WalkEntry} {places : List α}

/-- What comes to a scan's findings from entries: the keys of the files among them that are read,
and how many are read and left out. -/
structure Adds (w : World) (project : ProjectRules) (entry : α → WalkEntry) (places : List α)
    (files : List (α × List UInt8)) (found out : ScanOutcome) : Prop where
  chosen : files.map (·.1) = places.filter fun a => (entry a).verdict project.selector = .read
  contents : ∀ f ∈ files, w.files.read (entry f.1).path = .ok f.2
  keys : out.keys = found.keys ++ files.flatMap fun f =>
    (CompiledRule.applyAll project.rules (Utf8.decodeLossy f.2)).value
  scanned : out.scanned = found.scanned + files.length
  skipped : out.skipped =
    found.skipped + (places.filter fun a => (entry a).leftOut project.selector).length

/-- A scan reads the files among its entries and counts those that it leaves out. -/
theorem scanEntries_spec {found out : ScanOutcome}
    (h : (scanEntries w project found (places.map entry)).run.value = .ok out) :
    ∃ files, Adds w project entry places files found out ∧
      (scanEntries w project found (places.map entry)).run.reads =
        files.map fun f => (entry f.1).path := by
  -- the induction is over the entries, for whatever has been found before them
  induction places generalizing found with
  | nil =>
      cases h
      exact ⟨[], ⟨by simp, by simp, by simp, rfl, rfl⟩, rfl⟩
  | cons a rest ih =>
      rw [List.map_cons, scanEntries] at h ⊢
      cases hverdict : (entry a).verdict project.selector with
      | enter =>
          rw [hverdict] at h
          obtain ⟨files, hadds, hreads⟩ := ih h
          refine ⟨files, ⟨?_, hadds.contents, hadds.keys, hadds.scanned, ?_⟩, hreads⟩
          · simp [hadds.chosen, hverdict]
          · simp [hadds.skipped, WalkEntry.leftOut, hverdict]
      | skip reason =>
          rw [hverdict] at h
          have hreport :
              (Audited.report (.skipped (entry a).path reason)).run.value = .ok () := rfl
          dsimp only at h ⊢
          rw [(run_bind_ok hreport _).1] at h
          obtain ⟨files, hadds, hreads⟩ := ih h
          refine ⟨files, ⟨?_, hadds.contents, hadds.keys, hadds.scanned, ?_⟩, ?_⟩
          · simp [hadds.chosen, hverdict]
          · simp only [hadds.skipped, WalkEntry.leftOut, hverdict, List.filter_cons_of_pos,
              List.length_cons]
            omega
          · rw [reads_run_bind hreport, hreads]
            rfl
      | read =>
          rw [hverdict] at h
          dsimp only at h ⊢
          rw [value_run_bind] at h
          obtain ⟨keys, hfile, h⟩ := Result.bind_eq_ok.mp h
          obtain ⟨content, hread, hkeys, hfileReads⟩ := scanFile_spec hfile
          obtain ⟨files, hadds, hreads⟩ := ih h
          refine ⟨(a, content) :: files, ⟨?_, ?_, ?_, ?_, ?_⟩, ?_⟩
          · simp [hadds.chosen, hverdict]
          · exact List.forall_mem_cons.mpr ⟨hread, hadds.contents⟩
          · rw [hadds.keys, hkeys, List.flatMap_cons, List.append_assoc]
          · simp only [hadds.scanned, List.length_cons]
            omega
          · simp [hadds.skipped, WalkEntry.leftOut, hverdict]
          · rw [reads_run_bind hfile, hfileReads, hreads]
            rfl

theorem list_spec {entries : List WalkEntry} (h : (list w root).run.value = .ok entries) :
    (∃ node, w.files.find root = .ok node ∧ node.isDirectory = true ∧ entries = node.walk root) ∧
      (list w root).run.reads = [] := by
  have hact : (Audited.act (.walkTree root)).run.value = .ok () := rfl
  rw [list, (run_bind_ok hact _).1] at h
  rw [list, reads_run_bind hact]
  cases hfind : w.files.find root with
  | error e =>
      rw [hfind] at h
      cases h
  | ok node =>
      rw [hfind] at h
      dsimp only at h ⊢
      by_cases hdirectory : node.isDirectory = true
      · rw [if_pos hdirectory] at h ⊢
        exact ⟨⟨node, rfl, hdirectory, (Except.ok.inj h).symm⟩, rfl⟩
      · rw [if_neg hdirectory] at h
        cases h

/-! ### Other orders of listing -/

section Relisted

variable (h : w.files.Relisted w'.files) (hlegal : w.files.top.Legal)
include h hlegal

theorem list_relisted : list w root = list w' root := by
  have hfind := FileTree.find_alike h hlegal root
  rw [list, list]
  revert hfind
  generalize w.files.find root = x, w'.files.find root = y
  intro hfind
  cases hfind with
  | error e => rfl
  | ok halike => simp only [halike.isDirectory, halike.walk_eq]

theorem scanEntries_relisted (found : ScanOutcome) (entries : List WalkEntry) :
    scanEntries w project found entries = scanEntries w' project found entries := by
  have hread : ∀ path, w.readFile path = w'.readFile path := by
    intro path
    rw [World.readFile, World.readFile, FileTree.read_relisted h hlegal]
  induction entries generalizing found with
  | nil => rfl
  | cons e rest ih => simp only [scanEntries, scanFile, hread, ih]

theorem scan_relisted : scan w root project = scan w' root project := by
  rw [scan, scan, list_relisted h hlegal]
  simp only [scanEntries_relisted h hlegal]

end Relisted

/-- What a scan of a directory at a path has to read, with the contents it finds there, and what it
has to leave out. -/
structure Covers (w : World) (root : Text) (extensions : Option (List Text)) (n : Node)
    (files : List (List Text × List UInt8)) (others : List (List Text)) : Prop where
  chosen : ∀ names, names ∈ files.map (·.1) ↔ n.Chosen extensions names
  ascending : (files.map (·.1)).Pairwise (· < ·)
  contents : ∀ f ∈ files, w.files.read (f.1.foldl Path.join root) = .ok f.2
  own : ∀ f ∈ files, ∀ content, n.at? f.1 = some (.file content) → content = f.2
  rest : ∀ names, names ∈ others ↔
    n.Reaches names ∧ ¬ n.Chosen extensions names ∧ ¬ n.Entered names
  once : others.Nodup

/-- The paths of the files that are read are different. -/
theorem Covers.nodup_paths {n : Node} {files : List (List Text × List UInt8)}
    {others : List (List Text)} (h : Covers w root extensions n files others) (hlegal : n.Legal) :
    (files.map fun f => f.1.foldl Path.join root).Nodup := by
  have hpaths : files.map (fun f => f.1.foldl Path.join root) =
      (files.map (·.1)).map fun names => names.foldl Path.join root := by
    rw [List.map_map]
    rfl
  rw [hpaths]
  refine List.Nodup.map_on (fun names hnames names' hnames' heq => ?_)
    (h.ascending.imp fun hlt => ne_of_lt hlt)
  obtain ⟨-, ⟨e, he, -⟩, -⟩ := (h.chosen names).mp hnames
  obtain ⟨-, ⟨e', he', -⟩, -⟩ := (h.chosen names').mp hnames'
  exact FileTree.foldl_join_injective (hlegal.isName_of_mem he) (hlegal.isName_of_mem he') heq

/-- The entries of a walk, told apart by what is done with them. -/
theorem covers_of_places {n : Node} (hfind : w.files.find root = .ok n) (hlegal : n.Legal)
    {places : List (List Text)} (hascending : places.Pairwise (· < ·))
    (hmem : ∀ names, names ∈ places ↔ n.Reaches names) {files : List (List Text × List UInt8)}
    (hfiles : files.map (·.1) = places.filter fun names =>
      (n.entryAt root names).verdict (.ofExtensions extensions) = .read)
    (hcontents : ∀ f ∈ files, w.files.read (f.1.foldl Path.join root) = .ok f.2) :
    Covers w root extensions n files
      (places.filter fun names => (n.entryAt root names).leftOut (.ofExtensions extensions)) where
  chosen names := by
    rw [hfiles, List.mem_filter, decide_eq_true_iff, hmem]
    constructor
    · exact fun ⟨hreaches, hverdict⟩ => (Node.chosen_iff hreaches root).mpr hverdict
    · exact fun hchosen => ⟨hchosen.1, (Node.chosen_iff hchosen.1 root).mp hchosen⟩
  ascending := hfiles ▸ hascending.filter _
  contents := hcontents
  own f hf content hcontent := by
    have hread := FileTree.read_below hlegal hfind hcontent
    rw [hcontents f hf] at hread
    exact (Except.ok.inj hread).symm
  rest names := by
    rw [List.mem_filter, hmem, WalkEntry.leftOut_iff]
    refine and_congr_right fun hreaches => ?_
    rw [Node.chosen_iff hreaches root, Node.entered_iff hreaches root (.ofExtensions extensions)]
    exact and_comm
  once := (hascending.imp fun hlt => ne_of_lt hlt).filter _

/-- A scan that succeeds has read the files that its settings choose, each once and in the order of
their names. Its keys are those of their contents, and it has counted them and what it left out. In
whatever order the directories list their entries, it does the same. -/
theorem scan_covers {found : ScanOutcome} (hlegal : w.files.top.Legal)
    (h : (scan w root ⟨rules, .ofExtensions extensions⟩).run.value = .ok found) :
    ∃ n files others, w.files.find root = .ok n ∧ n.isDirectory = true ∧
      Covers w root extensions n files others ∧
      (scan w root ⟨rules, .ofExtensions extensions⟩).run.reads =
        files.map (fun f => f.1.foldl Path.join root) ∧
      (files.map fun f => f.1.foldl Path.join root).Nodup ∧
      found =
        { keys := files.flatMap fun f =>
            (CompiledRule.applyAll rules (Utf8.decodeLossy f.2)).value
          scanned := files.length
          skipped := others.length } ∧
      ∀ w' : World, w.files.Relisted w'.files →
        scan w' root ⟨rules, .ofExtensions extensions⟩ =
          scan w root ⟨rules, .ofExtensions extensions⟩ := by
  rw [scan, value_run_bind] at h
  obtain ⟨entries, hlist, hentries⟩ := Result.bind_eq_ok.mp h
  obtain ⟨⟨n, hfind, hdirectory, rfl⟩, hlistReads⟩ := list_spec hlist
  have hnode : n.Legal := FileTree.legal_of_find hlegal hfind
  obtain ⟨places, hascending, hmem, hwalk⟩ := Node.walk_spec hnode
  rw [hwalk root] at hlist hentries
  obtain ⟨files, hadds, hreads⟩ := scanEntries_spec hentries
  have hcovers := covers_of_places hfind hnode hascending hmem hadds.chosen hadds.contents
  refine ⟨n, files, _, hfind, hdirectory, hcovers, ?_, hcovers.nodup_paths hnode, ?_, ?_⟩
  · rw [scan, reads_run_bind hlist, hlistReads, hreads]
    rfl
  · have hscanned := hadds.scanned
    have hskipped := hadds.skipped
    rw [Nat.zero_add] at hscanned hskipped
    cases found
    simp only [ScanOutcome.mk.injEq]
    exact ⟨hadds.keys, hscanned, hskipped⟩
  · exact fun w' hrelisted => (scan_relisted hrelisted hlegal).symm

/-- The entries of a directory with files to read at two depths, one of them through a link, and
with an entry for each reason to leave one out. -/
def sampleEntries : List (Text × Node) := [
  (Text.of "b.ts", .link (Text.of "lib/a.ts")),
  (Text.of "lib", .directory [(Text.of "a.ts", .file (Utf8.encode (Text.of "k2 k1")))]),
  (Text.of "Makefile", .file []),
  (Text.of "a.test.ts", .file []),
  (Text.of "old.ts", .directory [(Text.of "c.ts", .file (Utf8.encode (Text.of "k3")))]),
  (Text.of "a.md", .file [])]

def sampleProject (entries : List (Text × Node)) : World where
  files := { top := .directory [(Text.of "p", .directory entries)], workingDirectory := [] }
  server := none

theorem scan_covers_sample :
    (sampleProject sampleEntries).files.top.Legal ∧
      (sampleProject sampleEntries).files.Relisted (sampleProject sampleEntries.reverse).files ∧
      ∃ rules n files others,
        (scan (sampleProject sampleEntries) (Text.of "p")
          ⟨rules, .ofExtensions (some [Text.of ".ts"])⟩).run.value =
            .ok ⟨[Text.of "k2", Text.of "k1", Text.of "k2", Text.of "k1"], 2, 4⟩ ∧
        Covers (sampleProject sampleEntries) (Text.of "p") (some [Text.of ".ts"]) n files others ∧
        files.map (fun f => f.1.foldl Path.join (Text.of "p")) =
          [Text.of "p/b.ts", Text.of "p/lib/a.ts"] ∧
        others.length = 4 ∧
        scan (sampleProject sampleEntries.reverse) (Text.of "p")
          ⟨rules, .ofExtensions (some [Text.of ".ts"])⟩ =
            scan (sampleProject sampleEntries) (Text.of "p")
              ⟨rules, .ofExtensions (some [Text.of ".ts"])⟩ := by
  have hlegal : (sampleProject sampleEntries).files.top.Legal := by
    refine .directory (by decide) (by decide) ?_
    rw [List.forall_mem_singleton]
    refine .directory (by decide) (by decide) ?_
    simp only [sampleEntries, List.forall_mem_cons]
    refine ⟨.link _, .directory (by decide) (by decide) ?_, .file _, .file _,
      .directory (by decide) (by decide) ?_, .file _, nofun⟩
    · exact List.forall_mem_singleton.mpr (.file _)
    · exact List.forall_mem_singleton.mpr (.file _)
  have hrelisted : (sampleProject sampleEntries).files.Relisted
      (sampleProject sampleEntries.reverse).files :=
    ⟨.inside [] [] (Text.of "p") (.permute (List.reverse_perm sampleEntries).symm), rfl⟩
  have hrun : ((Pattern.ofText? (Text.of "k[0-9]")).map fun p =>
      let run := (scan (sampleProject sampleEntries) (Text.of "p")
        ⟨[⟨.extract p 0, []⟩], .ofExtensions (some [Text.of ".ts"])⟩).run
      (run.value, run.reads)) =
      some (.ok ⟨[Text.of "k2", Text.of "k1", Text.of "k2", Text.of "k1"], 2, 4⟩,
        [Text.of "p/b.ts", Text.of "p/lib/a.ts"]) := by decide +kernel
  obtain ⟨p, -, hrun⟩ := Option.map_eq_some_iff.mp hrun
  obtain ⟨hvalue, hreads⟩ := Prod.mk.inj hrun
  obtain ⟨n, files, others, -, -, hcovers, hpaths, -, hfound, hsame⟩ := scan_covers hlegal hvalue
  refine ⟨hlegal, hrelisted, _, n, files, others, hvalue, hcovers, hpaths.symm.trans hreads, ?_,
    hsame _ hrelisted⟩
  exact (congrArg ScanOutcome.skipped hfound).symm

end Project

end WordingAudit
