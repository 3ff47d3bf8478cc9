import WordingAudit.Proofs.Modes
import WordingAudit.Proofs.Scan

/-!
What collecting keys comes to, without the record of what was done on the way. A scan ends with the
error of the first file that it should read and cannot.
-/

namespace WordingAudit

open Traced

namespace WalkEntry

/-- The error of an entry that is to be read and cannot be. -/
def failure? (w : World) (selector : FileSelector) (e : WalkEntry) : Option AuditError :=
  match e.verdict selector, w.files.read e.path with
  | .read, .error problem => some (.file e.path problem)
  | _, _ => none

theorem failure?_eq_some {w : World} {selector : FileSelector} {e : WalkEntry}
    {error : AuditError} :
    e.failure? w selector = some error ↔ e.verdict selector = .read ∧
      ∃ problem, w.files.read e.path = .error problem ∧ error = .file e.path problem := by
  rw [failure?]
  cases e.verdict selector with
  | enter => simp
  | skip reason => simp
  | read =>
      cases w.files.read e.path with
      | ok content => simp
      | error problem => simp [eq_comm]

end WalkEntry

namespace Project

variable {w : World} {project : ProjectRules}

theorem scanFile_value (w : World) (rules : List CompiledRule) (path : Text) :
    (scanFile w rules path).run.value =
      ((w.files.read path).mapError (AuditError.file path)).map fun content =>
        (CompiledRule.applyAll rules (Utf8.decodeLossy content)).value := by
  have hreport : (Audited.report (.file path)).run.value = .ok () := rfl
  rw [scanFile, (run_bind_ok hreport _).1, value_run_bind]
  rfl

/-- A scan of entries ends with the first error of an entry, if there is one. -/
theorem scanEntries_eq_error {found : ScanOutcome} {entries : List WalkEntry} {error : AuditError} :
    (scanEntries w project found entries).run.value = .error error ↔
      entries.findSome? (WalkEntry.failure? w project.selector) = some error := by
  induction entries generalizing found with
  | nil => exact ⟨nofun, nofun⟩
  | cons e rest ih =>
      rw [scanEntries, List.findSome?_cons, WalkEntry.failure?]
      cases e.verdict project.selector with
      | enter => exact ih
      | skip reason => exact ih
      | read =>
          dsimp only
          rw [value_run_bind, scanFile_value]
          cases w.files.read e.path with
          | ok content => exact ih
          | error problem => simp [Except.mapError, Except.map, Except.bind]

theorem exists_scanEntries_eq_ok {found : ScanOutcome} {entries : List WalkEntry} :
    (∃ out, (scanEntries w project found entries).run.value = .ok out) ↔
      ∀ e ∈ entries, e.failure? w project.selector = none := by
  rw [← List.findSome?_eq_none_iff]
  cases hscan : (scanEntries w project found entries).run.value with
  | ok out =>
      refine ⟨fun _ => ?_, fun _ => ⟨out, rfl⟩⟩
      rw [Option.eq_none_iff_forall_ne_some]
      intro error herror
      cases hscan.symm.trans (scanEntries_eq_error.mpr herror)
  | error error =>
      rw [scanEntries_eq_error.mp hscan]
      exact ⟨nofun, nofun⟩

theorem list_value (w : World) (root : Text) :
    (list w root).run.value =
      ((w.files.find root).mapError (AuditError.file root)).bind fun node =>
        if node.isDirectory then .ok (node.walk root)
        else .error (.file root .rootNotDirectory) := by
  have hact : (Audited.act (.walkTree root)).run.value = .ok () := rfl
  rw [list, (run_bind_ok hact _).1]
  cases w.files.find root with
  | error problem => rfl
  | ok node =>
      dsimp only [Except.mapError, Except.bind]
      split <;> rfl

theorem scan_value (w : World) (root : Text) (project : ProjectRules) :
    (scan w root project).run.value = (list w root).run.value.bind fun entries =>
      (scanEntries w project {} entries).run.value :=
  value_run_bind _ _

theorem keys_value (w : World) (root : Text) (project : ProjectRules) :
    (keys w (some root) (some project)).run.value =
      if project.rules.isEmpty then .error (.settings .noRules)
      else (scan w root project).run.value.map fun found => KeySet.ofList found.keys := by
  rw [keys]
  split
  · rfl
  · simp only [value_run_bind]
    cases (scan w root project).run.value <;> rfl

end Project

namespace Wordings

theorem fetch_value (w : World) (url : Text) :
    (fetch w url).run.value =
      match Url.ofText? url, w.server with
      | none, _ => .error (.fetch url .badUrl)
      | some u, none => .error (.fetch url (.notSent u.text))
      | some _, some reply => (replyText reply).mapError (AuditError.fetch url) := by
  have hreport : (Audited.report (.fetching url)).run.value = .ok () := rfl
  rw [fetch, (run_bind_ok hreport _).1]
  cases Url.ofText? url with
  | none => rfl
  | some u =>
      cases w.server with
      | none => rfl
      | some reply => rfl

theorem entries_value (format : ResourceFormat) (source content : Text) :
    (do
      let value ← Audited.ofResult (readJson source content)
      Audited.ofTraced (entries format source value) : Audited Entries).run.value =
      (readJson source content).map fun value => (entries format source value).value := by
  have hread : (Audited.ofResult (readJson source content)).run.value =
      readJson source content := rfl
  rw [value_run_bind, hread]
  cases readJson source content <;> rfl

theorem load_url_value (w : World) (url : Text) :
    (load w (.url url)).run.value = (fetch w url).run.value.bind fun content =>
      (readJson url content).map fun value => (entries .nested url value).value := by
  rw [load, value_run_bind]
  simp only [entries_value]

theorem load_file_value (w : World) (path : Text) (format : ResourceFormat) :
    (load w (.file path format)).run.value =
      ((w.files.readText path).mapError (AuditError.file path)).bind fun content =>
        (readJson path content).map fun value => (entries format path value).value := by
  have hreport : (Audited.report (.reading path format)).run.value = .ok () := rfl
  have hread : (w.readText path).run.value =
      (w.files.readText path).mapError (AuditError.file path) := rfl
  rw [load, (run_bind_ok hreport _).1, value_run_bind, hread]
  simp only [entries_value]

theorem keys_value (w : World) (source : Text) (list : List CompiledSubstitution) :
    (keys w (some source) list).run.value = (Locator.ofSource source).bind fun place =>
      (load w place).run.value.map fun found =>
        KeySet.ofList (CompiledSubstitution.applyAll list (Entries.keys found)) := by
  rw [keys]
  simp only [value_run_bind]
  cases Locator.ofSource source with
  | error e => rfl
  | ok place => cases (load w place).run.value <;> rfl

end Wordings

namespace Audit

theorem projectKeys_value (w : World) (c : Config) :
    (projectKeys w c).run.value = (c.projectRules.mapError RunError.step).bind fun project =>
      (Project.keys w c.projectPath project).run.value.mapError RunError.projectKeys := by
  rw [projectKeys, value_run_bind]
  rfl

theorem fileKeys_value (w : World) (c : Config) :
    (fileKeys w c).run.value = (c.wordings.compile.mapError RunError.step).bind fun list =>
      (Wordings.keys w c.wordingsSource list).run.value.mapError RunError.fileKeys := by
  rw [fileKeys, value_run_bind]
  rfl

end Audit

end WordingAudit
