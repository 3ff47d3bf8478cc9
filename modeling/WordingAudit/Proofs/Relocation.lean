import WordingAudit.Proofs.Contents
import WordingAudit.Proofs.Files.Placement
import WordingAudit.Proofs.Resolution

/-!
Where a project lives. Wherever a tree without links is placed, an audit by the settings in it finds
the same keys or fails with an error of the same kind, as long as the settings name nothing outside
the tree but addresses. The errors themselves differ, since they name the paths.
-/

namespace WordingAudit

open Node (IsName)

namespace Locator

variable {source base : Text}

theorem isUrl_of_plain (h : ¬Text.of "//" <:+: source) : isUrl source = false := by
  have hslashes : ∀ scheme ∈ schemes, Text.of "//" <:+: scheme := by decide
  rw [← Bool.not_eq_true, isUrl_iff]
  exact fun ⟨scheme, hscheme, hbegins⟩ => h ((hslashes scheme hscheme).trans hbegins.isInfix)

theorem isUrl_of_isName (h : IsName source) : isUrl source = false :=
  isUrl_of_plain fun hslashes => h.2.1 (hslashes.subset List.mem_cons_self)

theorem isUrl_of_isPrefix (h : base <+: source) (hsource : isUrl source = false) :
    isUrl base = false := by
  rw [← Bool.not_eq_true, isUrl_iff]
  rintro ⟨scheme, hscheme, hbegins⟩
  have hurl : isUrl source = true := isUrl_iff.mpr ⟨scheme, hscheme, hbegins.trans h⟩
  exact Bool.false_ne_true (hsource.symm.trans hurl)

theorem isUrl_foldl_join {names : List Text} (hnames : ∀ name ∈ names, IsName name)
    (hbase : isUrl base = false) : isUrl (names.foldl Path.join base) = false := by
  induction names generalizing base with
  | nil => exact hbase
  | cons name rest ih =>
      obtain ⟨hname, hrest⟩ := List.forall_mem_cons.mp hnames
      exact ih hrest (isUrl_join hbase (isUrl_of_isName hname))

end Locator

/-- Below two directories two worlds look the same to an audit: relative paths lead to the same legal
trees without links, and the server is the same. -/
structure World.SameBelow (w w' : World) (base base' : Text) : Prop where
  server : w.server = w'.server
  notUrl : Locator.isUrl base = false
  notUrl' : Locator.isUrl base' = false
  find : ∀ path, Path.Inside path →
    w.files.find (Path.join base path) = w'.files.find (Path.join base' path)
  legal : ∀ path n, Path.Inside path → w.files.find (Path.join base path) = .ok n → n.Legal
  linkFree : ∀ path n, Path.Inside path → w.files.find (Path.join base path) = .ok n → n.LinkFree

/-- Settings that name nothing but places in the tree they are in, and addresses. -/
structure Config.Portable (c : Config) : Prop where
  project : ∀ path, c.projectPath = some path → Path.Inside path
  wordings : ∀ source, c.wordingsSource = some source →
    Locator.isUrl source = true ∨ Path.Inside source

variable {w w' : World}

namespace Project

variable {root root' : Text} {n : Node} {selector : FileSelector}

theorem isDirectory_of_read {e : WalkEntry} (h : e.verdict selector = .read) :
    e.isDirectory = false := by
  rw [WalkEntry.verdict] at h
  cases hdirectory : e.isDirectory with
  | false => rfl
  | true =>
      rw [hdirectory] at h
      split at h <;> cases h

/-- What is read below a directory without links is what stands there. -/
theorem exists_content {names : List Text} (hlegal : n.Legal) (hfree : n.LinkFree)
    (hreaches : n.Reaches names) (hread : (n.entryAt root names).verdict selector = .read) :
    ∃ content, n.at? names = some (.file content) := by
  obtain ⟨name, e, -, he, hentry⟩ := Node.entryAt_of_reaches hreaches root
  have hplain := isDirectory_of_read hread
  rw [hentry] at hplain
  have heFree : e.LinkFree := hfree.resolve (Node.resolve_of_at? (hlegal.isName_of_mem he) he)
  cases heFree with
  | file content => exact ⟨content, he⟩
  | directory below => cases hplain

theorem readAll_relocated (hlegal : n.Legal) (hfree : n.LinkFree) (hfind : w.files.find root = .ok n)
    (hfind' : w'.files.find root' = .ok n) {places : List (List Text)}
    (hplaces : ∀ names ∈ places, n.Reaches names) :
    readAll w selector (places.map (n.entryAt root)) =
      readAll w' selector (places.map (n.entryAt root')) := by
  induction places with
  | nil => rw [List.map_nil, List.map_nil, readAll_nil, readAll_nil]
  | cons names rest ih =>
      obtain ⟨hreaches, hrest⟩ := List.forall_mem_cons.mp hplaces
      -- names decide what is done with an entry, not the path to them
      have hverdict : (n.entryAt root' names).verdict selector =
          (n.entryAt root names).verdict selector := rfl
      rw [List.map_cons, List.map_cons, readAll_cons, readAll_cons, hverdict, ih hrest]
      by_cases hread : (n.entryAt root names).verdict selector = .read
      · obtain ⟨content, hcontent⟩ := exists_content hlegal hfree hreaches hread
        have hhere : w.files.read (n.entryAt root names).path = .ok content :=
          FileTree.read_below hlegal hfind hcontent
        have hthere : w'.files.read (n.entryAt root' names).path = .ok content :=
          FileTree.read_below hlegal hfind' hcontent
        rw [if_pos hread, if_pos hread, hhere, hthere]
        rfl
      · rw [if_neg hread, if_neg hread]

section Relocated

variable (hfind : w.files.find root = w'.files.find root')
  (hlegal : ∀ n, w.files.find root = .ok n → n.Legal)
  (hfree : ∀ n, w.files.find root = .ok n → n.LinkFree)
include hfind hlegal hfree

theorem contents_relocated (selector : FileSelector) :
    (contents w root selector).mapError AuditError.kind =
      (contents w' root' selector).mapError AuditError.kind := by
  rw [contents, contents, list_value, list_value, ← hfind]
  cases hnode : w.files.find root with
  | error problem => dsimp only [Except.mapError, Except.bind, AuditError.kind]
  | ok n =>
      dsimp only [Except.mapError, Except.bind]
      by_cases hdirectory : n.isDirectory = true
      · obtain ⟨places, -, hplaces, hwalk⟩ := Node.walk_spec (hlegal n hnode)
        rw [if_pos hdirectory, if_pos hdirectory]
        dsimp only
        rw [hwalk, hwalk, readAll_relocated (hlegal n hnode) (hfree n hnode) hnode
          (hfind ▸ hnode) fun names => (hplaces names).mp]
      · rw [if_neg hdirectory, if_neg hdirectory]
        dsimp only [AuditError.kind]

/-- The keys of a project do not depend on the path to it. -/
theorem keys_relocated (project : ProjectRules) :
    (keys w (some root) (some project)).run.value.mapError AuditError.kind =
      (keys w' (some root') (some project)).run.value.mapError AuditError.kind := by
  obtain ⟨rules, selector⟩ := project
  by_cases hrules : rules = []
  · have hempty : ([] : List CompiledRule).isEmpty = true := rfl
    rw [hrules, keys_value, keys_value, if_pos hempty, if_pos hempty]
  · rw [← keysWith, ← keysWith, keysWith_some hrules, keysWith_some hrules, Result.mapError_map,
      Result.mapError_map, contents_relocated hfind hlegal hfree]

end Relocated

end Project

namespace Wordings

variable {path path' source base base' : Text}

/-- Where a document comes from shows in reports, not in its entries. -/
theorem entries_value_congr (format : ResourceFormat) (path path' : Text) (value : Json) :
    (entries format path value).value = (entries format path' value).value := by
  cases format with
  | nested => rfl
  | flat => cases value <;> rfl

theorem load_relocated (hfind : w.files.find path = w'.files.find path') (format : ResourceFormat) :
    (load w (.file path format)).run.value.mapError AuditError.kind =
      (load w' (.file path' format)).run.value.mapError AuditError.kind := by
  have hread : w.files.readText path = w'.files.readText path' := by
    rw [FileTree.readText, FileTree.readText, FileTree.read, FileTree.read, hfind]
  rw [load_file_value, load_file_value, hread]
  cases w'.files.readText path' with
  | error problem => rfl
  | ok content =>
      dsimp only [Except.mapError, Except.bind]
      rw [readJson, readJson]
      cases Json.read? content with
      | none => rfl
      | some value => exact congrArg Except.ok (entries_value_congr format path path' value)

/-- The keys of a file do not depend on the directory it is in. -/
theorem keys_relocated (hbase : Locator.isUrl base = false) (hbase' : Locator.isUrl base' = false)
    (hsource : Locator.isUrl source = false)
    (hfind : w.files.find (Path.join base source) = w'.files.find (Path.join base' source))
    (list : List CompiledSubstitution) :
    (keys w (some (Path.join base source)) list).run.value.mapError AuditError.kind =
      (keys w' (some (Path.join base' source)) list).run.value.mapError AuditError.kind := by
  have hload : ∀ format,
      ((load w (.file (Path.join base source) format)).run.value.map fun found =>
        KeySet.ofList (CompiledSubstitution.applyAll list (Entries.keys found))).mapError
          AuditError.kind =
      ((load w' (.file (Path.join base' source) format)).run.value.map fun found =>
        KeySet.ofList (CompiledSubstitution.applyAll list (Entries.keys found))).mapError
          AuditError.kind := fun format => by
    rw [Result.mapError_map, Result.mapError_map, load_relocated hfind]
  rw [keys_value, keys_value, Locator.ofSource_join hbase hsource,
    Locator.ofSource_join hbase' hsource]
  cases Text.endsWith source (Text.of ".arb") with
  | true => exact hload .flat
  | false =>
      cases Text.endsWith source (Text.of ".json") with
      | true => exact hload .nested
      | false => rfl

theorem keys_of_server (hserver : w.server = w'.server) (h : Locator.isUrl source = true)
    (list : List CompiledSubstitution) :
    (keys w (some source) list).run.value = (keys w' (some source) list).run.value := by
  rw [keys_value, keys_value, Locator.ofSource_of_isUrl h, Except.bind, Except.bind, load_url_value, load_url_value,
    fetch_value, fetch_value, hserver]

end Wordings

namespace Audit

section Collecting

variable {c : Config} {base base' : Text} (h : w.SameBelow w' base base') (hportable : c.Portable)
include h hportable

theorem projectKeys_relocated :
    (projectKeys w (c.resolvePaths base)).run.value.mapError RunError.kind =
      (projectKeys w' (c.resolvePaths base')).run.value.mapError RunError.kind := by
  have hkeys : ∀ project,
      (Project.keys w (c.projectPath.map (Path.join base)) project).run.value.mapError
          AuditError.kind =
        (Project.keys w' (c.projectPath.map (Path.join base')) project).run.value.mapError
          AuditError.kind := by
    intro project
    cases hpath : c.projectPath with
    | none => rfl
    | some path =>
        have hinside := hportable.project path hpath
        cases project with
        | none => rfl
        | some project =>
            exact Project.keys_relocated (h.find path hinside)
              (fun n => h.legal path n hinside) (fun n => h.linkFree path n hinside) project
  have hrules : ∀ b, (c.resolvePaths b).projectRules = c.projectRules := fun b => rfl
  rw [projectKeys_value, projectKeys_value, hrules, hrules, Result.mapError_bind,
    Result.mapError_bind]
  simp only [Result.mapError_mapError]
  exact congrArg (Except.bind _) (funext hkeys)

theorem fileKeys_relocated :
    (fileKeys w (c.resolvePaths base)).run.value.mapError RunError.kind =
      (fileKeys w' (c.resolvePaths base')).run.value.mapError RunError.kind := by
  have hkeys : ∀ list,
      (Wordings.keys w (c.wordingsSource.map (Config.sourceIn base)) list).run.value.mapError
          AuditError.kind =
        (Wordings.keys w' (c.wordingsSource.map (Config.sourceIn base')) list).run.value.mapError
          AuditError.kind := by
    intro list
    cases hsource : c.wordingsSource with
    | none => rfl
    | some source =>
        rw [Option.map_some, Option.map_some, Config.sourceIn, Config.sourceIn]
        cases hurl : Locator.isUrl source with
        | true => exact congrArg _ (Wordings.keys_of_server h.server hurl list)
        | false =>
            have hinside := (hportable.wordings source hsource).resolve_left (by simp [hurl])
            exact Wordings.keys_relocated h.notUrl h.notUrl' hurl (h.find source hinside) list
  have hlist : ∀ b, (c.resolvePaths b).wordings.compile = c.wordings.compile := fun b => rfl
  rw [fileKeys_value, fileKeys_value, hlist, hlist, Result.mapError_bind, Result.mapError_bind]
  simp only [Result.mapError_mapError]
  exact congrArg (Except.bind _) (funext hkeys)

theorem orphanKeys_relocated {comparison : Comparison} (hcomparison : c.comparison = .ok comparison)
    (side : Side) :
    (orphanKeys w (c.resolvePaths base) side).run.value.mapError RunError.kind =
      (orphanKeys w' (c.resolvePaths base') side).run.value.mapError RunError.kind := by
  have hsame : ∀ b, (c.resolvePaths b).comparison = .ok comparison := fun b => hcomparison
  rw [orphanKeys_value (hsame base), orphanKeys_value (hsame base')]
  simp only [Result.mapError_bind]
  rw [projectKeys_relocated h hportable, fileKeys_relocated h hportable]

/-- Settings that can be used give the same keys in each of two directories below which the same
stands. -/
theorem collect_relocated (hvalid : c.validate = .ok ()) (mode : Mode) :
    (collect w (c.resolvePaths base) mode).run.value.mapError RunError.kind =
      (collect w' (c.resolvePaths base') mode).run.value.mapError RunError.kind := by
  obtain ⟨-, -, comparison, hcomparison⟩ := validate_eq_ok.mp hvalid
  cases mode with
  | allProject => exact projectKeys_relocated h hportable
  | allFile => exact fileKeys_relocated h hportable
  | orphanProject => exact orphanKeys_relocated h hportable hcomparison .first
  | orphanFile => exact orphanKeys_relocated h hportable hcomparison .second

end Collecting

theorem loadConfig_of_file {path : Text} {content : List UInt8}
    (hfile : w.files.find path = .ok (.file content)) :
    (loadConfig w path).run.value =
      ((Utf8.decode? content).elim (.error (.readConfig path .notText)) Except.ok).bind fun text =>
        ((Config.read text).mapError (RunError.parseConfig path)).bind fun config =>
          (config.validate.mapError (RunError.invalidConfig path)).bind fun _ =>
            .ok (config.resolvePaths (Path.parent path)) := by
  have hvalidate : ∀ (c : Config) base, (c.resolvePaths base).validate = c.validate :=
    fun c base => rfl
  have hread : w.files.readText path = (Utf8.decode? content).elim (.error .notText) .ok := by
    rw [FileTree.readText, FileTree.read, hfile]
    rfl
  rw [loadConfig_value, hread]
  simp only [hvalidate]
  cases Utf8.decode? content <;> rfl

theorem outcome_of_load_errors {path path' : Text} {e e' : RunError}
    (hload : (loadConfig w path).run.value = .error e)
    (hload' : (loadConfig w' path').run.value = .error e') (hkind : e.kind = e'.kind) (mode : Mode) :
    (outcome w path mode).mapError RunError.kind =
      (outcome w' path' mode).mapError RunError.kind := by
  rw [run_of_loadConfig_error hload, run_of_loadConfig_error hload']
  exact congrArg Except.error hkind

/-- An audit by the settings in a file comes to the same in each of two places below whose
directories the same stands. -/
theorem outcome_relocated {path path' : Text} {content : List UInt8}
    (h : w.SameBelow w' (Path.parent path) (Path.parent path'))
    (hfile : w.files.find path = .ok (.file content))
    (hfile' : w'.files.find path' = .ok (.file content))
    (hportable : ∀ text c, Utf8.decode? content = some text → Config.read text = .ok c → c.Portable)
    (mode : Mode) :
    (outcome w path mode).mapError RunError.kind =
      (outcome w' path' mode).mapError RunError.kind := by
  have hload := loadConfig_of_file hfile
  have hload' := loadConfig_of_file hfile'
  cases htext : Utf8.decode? content with
  | none =>
      rw [htext] at hload hload'
      exact outcome_of_load_errors hload hload' rfl mode
  | some text =>
      rw [htext, Option.elim_some, Except.bind] at hload hload'
      cases hconfig : Config.read text with
      | error problem =>
          rw [hconfig] at hload hload'
          exact outcome_of_load_errors hload hload' rfl mode
      | ok c =>
          rw [hconfig, Except.mapError, Except.bind] at hload hload'
          cases hvalid : c.validate with
          | error cause =>
              rw [hvalid] at hload hload'
              exact outcome_of_load_errors hload hload' rfl mode
          | ok checked =>
              rw [hvalid] at hload hload'
              rw [outcome_eq hload, outcome_eq hload', Result.mapError_bind, Result.mapError_bind,
                collect_relocated h (hportable text c htext hconfig) hvalid]

/-- Below the directory of a file in a tree that is placed twice the same stands. -/
theorem sameBelow_of_placed {tree : Node} {dir dir' last : Text} {front : List Text}
    (hserver : w.server = w'.server) (hlegal : tree.Legal) (hfree : tree.LinkFree)
    (hdir : w.files.Placed dir tree) (hdir' : w'.files.Placed dir' tree)
    (hfront : ∀ name ∈ front, IsName name) (hlast : IsName last) :
    w.SameBelow w' (Path.parent (Path.join (front.foldl Path.join dir) last))
      (Path.parent (Path.join (front.foldl Path.join dir') last)) := by
  have hnotUrl : ∀ d, ¬Text.of "//" <:+: d →
      Locator.isUrl (Path.parent (Path.join (front.foldl Path.join d) last)) = false := by
    intro d hd
    refine Locator.isUrl_of_isPrefix (Path.parent_isPrefix hlast _) ?_
    exact Locator.isUrl_join (Locator.isUrl_foldl_join hfront (Locator.isUrl_of_plain hd))
      (Locator.isUrl_of_isName hlast)
  have hfind := fun path (hpath : Path.Inside path) =>
    FileTree.find_beside hdir hfree hfront hlast hpath
  have hfind' := fun path (hpath : Path.Inside path) =>
    FileTree.find_beside hdir' hfree hfront hlast hpath
  refine ⟨hserver, hnotUrl dir hdir.plain, hnotUrl dir' hdir'.plain, fun path hpath => ?_,
    fun path n hpath hn => ?_, fun path n hpath hn => ?_⟩
  · rw [hfind path hpath, hfind' path hpath]
  · exact hlegal.resolve ((hfind path hpath).symm.trans hn)
  · exact hfree.resolve ((hfind path hpath).symm.trans hn)

/-- The sample project in another place: in a directory with a dot in its name, found through a link
beside the directory in which work is done. -/
def movedWorld : World where
  files := {
    top := .directory [
      (Text.of "now", .link (Text.of "v1.2")),
      (Text.of "v1.2", sampleWorld.files.top),
      (Text.of "work", .directory [])]
    workingDirectory := [Text.of "work"] }
  server := none

theorem portable_of_read {content : List UInt8} {path source : Text} (hpath : Path.Inside path)
    (hsource : Path.Inside source)
    (hread : ((Utf8.decode? content).map fun text =>
      (Config.read text).map fun c => (c.projectPath, c.wordingsSource)) =
        some (.ok (some path, some source))) (text : Text) (c : Config)
    (htext : Utf8.decode? content = some text) (hconfig : Config.read text = .ok c) :
    c.Portable := by
  rw [htext, Option.map_some, hconfig] at hread
  obtain ⟨hproject, hwordings⟩ := Prod.mk.inj (Except.ok.inj (Option.some.inj hread))
  refine ⟨fun p hp => ?_, fun s hs => .inr ?_⟩
  · cases hproject.symm.trans hp
    exact hpath
  · cases hwordings.symm.trans hs
    exact hsource

end Audit

end WordingAudit
