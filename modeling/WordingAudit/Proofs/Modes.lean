import WordingAudit.Audit.Run
import WordingAudit.Proofs.Chain
import WordingAudit.Proofs.Sameness

/-!
The modes of an audit agree with each other. The orphans of a side exist when the keys of both sides
do, the first side that fails decides the error, and what is left of a side are the keys that are
the same as none on the other under the settings.
-/

namespace WordingAudit

open Traced

/-- The action has to do with the wordings: they are asked for, read, or reported on. -/
def Action.TouchesWordings : Action → Prop
  | .request _ => True
  | .report (.reading ..) => True
  | .report (.fetching _) => True
  | .report (.notAnObject _) => True
  | _ => False

/-- Only the project is looked at. -/
abbrev SparesWordings {α : Type} (x : Traced α) : Prop := Only (fun a => ¬a.TouchesWordings) x

namespace Project

theorem spares_report {e : Event} (h : ¬(Action.report e).TouchesWordings) :
    SparesWordings (Audited.report e).run :=
  Only.lift (only_act h)

theorem reports_spare {s : CompiledStep} {depth : UInt64} {t : Text}
    {report : Option Event × Option Text} (h : report ∈ s.reports depth t) {e : Event}
    (he : report.1 = some e) : ¬(Action.report e).TouchesWordings := by
  cases s with
  | extract p group =>
      obtain ⟨m, -, rfl⟩ := List.mem_map.mp h
      split at he <;> cases he <;> exact id
  | replace p template =>
      rw [CompiledStep.reports, List.mem_singleton] at h
      subst h
      cases he
      exact id
  | ignore p =>
      rw [CompiledStep.reports] at h
      split at h <;> rw [List.mem_singleton] at h <;> subst h <;> cases he
      exact id

theorem spares_chain (depth : UInt64) (steps : List CompiledStep) (t : Text) :
    SparesWordings (CompiledStep.chain depth steps t) :=
  CompiledStep.only_chain reports_spare depth steps t

theorem spares_scanFile (w : World) (rules : List CompiledRule) (path : Text) :
    SparesWordings (scanFile w rules path).run := by
  refine Only.run_bind (spares_report id) fun _ => ?_
  refine Only.run_bind ?_ fun content => ?_
  · exact Only.run_bind (Only.lift (only_act id)) fun _ => only_ofResult _
  · exact Only.lift (only_flatMap fun r _ => spares_chain 0 r.steps _)

theorem spares_scanEntries (w : World) (project : ProjectRules) (found : ScanOutcome)
    (entries : List WalkEntry) : SparesWordings (scanEntries w project found entries).run := by
  induction entries generalizing found with
  | nil => exact only_pure _
  | cons e rest ih =>
      rw [scanEntries]
      split
      · exact ih found
      · exact Only.run_bind (spares_report id) fun _ => ih _
      · exact Only.run_bind (spares_scanFile w project.rules e.path) fun keys => ih _

theorem spares_list (w : World) (root : Text) : SparesWordings (list w root).run := by
  refine Only.run_bind (Only.lift (only_act id)) fun _ => ?_
  split
  · exact only_pure _
  · split
    · exact only_pure _
    · exact only_pure _

/-- Collecting the keys of a project leaves the wordings alone. -/
theorem spares_keys (w : World) (root : Option Text) (project : Option ProjectRules) :
    SparesWordings (keys w root project).run := by
  cases root with
  | none => exact only_pure _
  | some root =>
      cases project with
      | none => exact only_pure _
      | some project =>
          have hscan : SparesWordings (do
              let found ← scan w root project
              Audited.report (.scanFinished found.scanned found.skipped found.keys.length)
              return KeySet.ofList found.keys : Audited KeySet).run := by
            refine Only.run_bind ?_ fun found => ?_
            · exact Only.run_bind (spares_list w root) fun entries =>
                spares_scanEntries w project {} entries
            · exact Only.run_bind (spares_report id) fun _ => only_pure _
          rw [keys]
          split
          · exact Only.run_bind (only_pure _) fun _ => hscan
          · exact hscan

end Project

/-- Loading the wordings never goes unrecorded, whether it succeeds or not. -/
theorem Wordings.load_touches (w : World) (place : Locator) :
    ∃ a ∈ (load w place).run.actions, a.TouchesWordings := by
  cases place with
  | url url =>
      refine ⟨.report (.fetching url), ?_, trivial⟩
      exact mem_actions_run_bind (mem_actions_run_bind List.mem_cons_self _) _
  | file path format =>
      exact ⟨.report (.reading path format), mem_actions_run_bind List.mem_cons_self _, trivial⟩

namespace Audit

/-- What an audit comes to: a report, or the error that ended it. -/
def outcome (w : World) (path : Text) (mode : Mode) : Except RunError Report :=
  (run w path mode).run.value

/-- The mode that asks for the orphans of a side. -/
def orphanMode : Side → Mode
  | .first => .orphanProject
  | .second => .orphanFile

theorem run_of_loadConfig_error {w : World} {path : Text} {e : RunError}
    (h : (loadConfig w path).run.value = .error e) (mode : Mode) :
    outcome w path mode = .error e :=
  (run_bind_error h _).1

theorem spares_loadConfig (w : World) (path : Text) : SparesWordings (loadConfig w path).run := by
  refine Only.run_bind (Only.lift (only_act id)) fun _ => ?_
  refine Only.run_bind (only_ofResult _) fun content => ?_
  refine Only.run_bind (only_ofResult _) fun config => ?_
  exact Only.run_bind (only_ofResult _) fun _ => only_pure _

theorem spares_projectKeys (w : World) (c : Config) : SparesWordings (projectKeys w c).run := by
  refine Only.run_bind (only_ofResult _) fun project => ?_
  exact Only.bind (Project.spares_keys w c.projectPath project) fun _ => only_pure _

theorem loadConfig_value (w : World) (path : Text) :
    (loadConfig w path).run.value =
      ((w.files.readText path).mapError (RunError.readConfig path)).bind fun content =>
        ((Config.read content).mapError (RunError.parseConfig path)).bind fun config =>
          (((config.resolvePaths (Path.parent path)).validate).mapError
            (RunError.invalidConfig path)).bind fun _ =>
              .ok (config.resolvePaths (Path.parent path)) := by
  simp only [loadConfig, value_run_bind]
  rfl

/-- Settings that were loaded have been checked. -/
theorem validate_of_loadConfig {w : World} {path : Text} {config : Config}
    (h : (loadConfig w path).run.value = .ok config) : config.validate = .ok () := by
  rw [loadConfig_value, Result.bind_eq_ok] at h
  obtain ⟨content, -, h⟩ := h
  rw [Result.bind_eq_ok] at h
  obtain ⟨written, -, h⟩ := h
  rw [Result.bind_eq_ok] at h
  obtain ⟨checked, hvalid, hconfig⟩ := h
  cases hconfig
  exact Result.mapError_eq_ok.mp hvalid

theorem validate_eq_ok {c : Config} :
    c.validate = .ok () ↔ (∃ project, c.projectRules = .ok project) ∧
      (∃ substitutions, c.wordings.compile = .ok substitutions) ∧
        ∃ comparison, c.comparison = .ok comparison := by
  have hvalue : c.validate = c.projectRules.bind fun _ => c.wordings.compile.bind fun _ =>
      c.comparison.bind fun _ => .ok () := rfl
  rw [hvalue]
  cases c.projectRules <;> cases c.wordings.compile <;> cases c.comparison <;>
    simp [Except.bind]

section Loaded

variable {w : World} {path : Text} {config : Config}

theorem outcome_eq (h : (loadConfig w path).run.value = .ok config) (mode : Mode) :
    outcome w path mode = (collect w config mode).run.value.bind fun keys => .ok ⟨mode, keys⟩ := by
  rw [outcome, run, (run_bind_ok h _).1, value_run_bind]
  rfl

theorem actions_eq (h : (loadConfig w path).run.value = .ok config) (mode : Mode) :
    (run w path mode).run.actions =
      (loadConfig w path).run.actions ++ (collect w config mode).run.actions := by
  rw [run, (run_bind_ok h _).2]
  cases hkeys : (collect w config mode).run.value with
  | ok keys => rw [(run_bind_ok hkeys _).2]; simp
  | error e => rw [(run_bind_error hkeys _).2]

theorem orphanKeys_value {comparison : Comparison} (h : config.comparison = .ok comparison)
    (side : Side) :
    (orphanKeys w config side).run.value =
      (projectKeys w config).run.value.bind fun project =>
        (fileKeys w config).run.value.bind fun file =>
          .ok (comparison.diff project.toList file.toList side).value := by
  simp only [orphanKeys, value_run_bind, h]
  rfl

theorem orphanKeys_actions_of_error {comparison : Comparison}
    (h : config.comparison = .ok comparison) {e : RunError}
    (hproject : (projectKeys w config).run.value = .error e) (side : Side) :
    (orphanKeys w config side).run.actions = (projectKeys w config).run.actions := by
  have hcomparison : (Auditing.ofResult (config.comparison.mapError .step)).run.value =
      .ok comparison := by
    rw [h]
    rfl
  rw [orphanKeys, (run_bind_ok hcomparison _).2, (run_bind_error hproject _).2]
  rfl

/-- `orphans` is what is left of a side: in ascending order, its keys that are the same as none on
the other side. Project keys are the ones that may hold tokens, whichever side is asked for. -/
def LeftOver (config : Config) (project file orphans : KeySet) : Side → Prop
  | .first => KeySet.Ascending orphans.toList ∧ ∀ key, key ∈ orphans.toList ↔
      key ∈ project.toList ∧ ∀ server ∈ file.toList, ¬config.Same key server
  | .second => KeySet.Ascending orphans.toList ∧ ∀ server, server ∈ orphans.toList ↔
      server ∈ file.toList ∧ ∀ key ∈ project.toList, ¬config.Same key server

theorem leftOver_diff {comparison : Comparison} (h : config.comparison = .ok comparison)
    (project file : KeySet) (side : Side) :
    LeftOver config project file (comparison.diff project.toList file.toList side).value side := by
  cases side with
  | first =>
      refine ⟨KeySet.ascending _, fun key => ?_⟩
      rw [Comparison.diff, Comparison.mem_select_first]
      simp [Config.equivalent_iff_same h]
  | second =>
      refine ⟨KeySet.ascending _, fun server => ?_⟩
      rw [Comparison.diff, Comparison.mem_select_second]
      simp [Config.equivalent_iff_same h]

theorem orphan_outcome (h : (loadConfig w path).run.value = .ok config) {comparison : Comparison}
    (hcomparison : config.comparison = .ok comparison) (side : Side) :
    outcome w path (orphanMode side) =
      (outcome w path .allProject).bind fun project =>
        (outcome w path .allFile).bind fun file =>
          .ok ⟨orphanMode side,
            (comparison.diff project.keys.toList file.keys.toList side).value⟩ := by
  have hcollect : collect w config (orphanMode side) = orphanKeys w config side := by
    cases side <;> rfl
  rw [outcome_eq h, outcome_eq h, outcome_eq h, hcollect, orphanKeys_value hcomparison, collect,
    collect]
  cases (projectKeys w config).run.value with
  | error e => rfl
  | ok project =>
      cases (fileKeys w config).run.value with
      | error e => rfl
      | ok file => rfl

/-- When the keys of the project cannot be collected, an audit for orphans does just what an audit
for these keys does. -/
theorem orphan_actions (h : (loadConfig w path).run.value = .ok config) {comparison : Comparison}
    (hcomparison : config.comparison = .ok comparison) {e : RunError}
    (he : outcome w path .allProject = .error e) (side : Side) :
    (run w path (orphanMode side)).run.actions = (run w path .allProject).run.actions := by
  have hcollect : collect w config (orphanMode side) = orphanKeys w config side := by
    cases side <;> rfl
  rw [outcome_eq h, collect] at he
  cases hproject : (projectKeys w config).run.value with
  | error e => rw [actions_eq h, actions_eq h, hcollect,
      orphanKeys_actions_of_error hcomparison hproject, collect]
  | ok project =>
      rw [hproject] at he
      cases he

theorem spares_run_allProject (h : (loadConfig w path).run.value = .ok config) :
    SparesWordings (run w path .allProject).run := by
  intro a ha
  rw [actions_eq h, List.mem_append] at ha
  exact ha.elim (spares_loadConfig w path a) (spares_projectKeys w config a)

end Loaded

/-- The runs of the four modes on the same files and server. Settings that cannot be used end them
all alike; otherwise the orphans of a side follow from the keys of both. An audit that loads the
wordings shows it. -/
theorem orphan_runs_agree (w : World) (path : Text) :
    (∀ e, (loadConfig w path).run.value = .error e → ∀ mode, outcome w path mode = .error e) ∧
    (∀ config, (loadConfig w path).run.value = .ok config → ∀ side,
      ((∃ report, outcome w path (orphanMode side) = .ok report) ↔
        (∃ project, outcome w path .allProject = .ok project) ∧
          ∃ file, outcome w path .allFile = .ok file) ∧
      (∀ e, outcome w path .allProject = .error e →
        outcome w path (orphanMode side) = .error e ∧
          (run w path (orphanMode side)).run.actions = (run w path .allProject).run.actions ∧
          SparesWordings (run w path (orphanMode side)).run) ∧
      (∀ project e, outcome w path .allProject = .ok project →
        outcome w path .allFile = .error e → outcome w path (orphanMode side) = .error e) ∧
      ∀ project file, outcome w path .allProject = .ok project →
        outcome w path .allFile = .ok file →
        ∃ orphans, outcome w path (orphanMode side) = .ok ⟨orphanMode side, orphans⟩ ∧
          LeftOver config project.keys file.keys orphans side) ∧
    ∀ place, ∃ a ∈ (Wordings.load w place).run.actions, a.TouchesWordings := by
  refine ⟨fun e => run_of_loadConfig_error, fun config hload side => ?_, Wordings.load_touches w⟩
  obtain ⟨-, -, comparison, hcomparison⟩ := validate_eq_ok.mp (validate_of_loadConfig hload)
  have horphan := orphan_outcome hload hcomparison side
  refine ⟨?_, fun e he => ?_, fun project e hproject he => ?_,
    fun project file hproject hfile => ?_⟩
  · rw [horphan]
    cases outcome w path .allProject <;> cases outcome w path .allFile <;> simp [Except.bind]
  · have hactions := orphan_actions hload hcomparison he side
    refine ⟨?_, hactions, ?_⟩
    · rw [horphan, he]
      rfl
    · intro a ha
      rw [hactions] at ha
      exact spares_run_allProject hload a ha
  · rw [horphan, hproject, he]
    rfl
  · refine ⟨_, ?_, leftOver_diff hcomparison project.keys file.keys side⟩
    rw [horphan, hproject, hfile]
    rfl

/-- Settings for a project and a place of wordings. -/
def sampleSettings (project wordings : String) : Node :=
  .file (Utf8.encode (Text.of ("\x7b\"projectSourcePath\": \"" ++ project ++
    "\", \"projectSourceParser\": \x7b\"matches\": [\x7b\"regex\": \"t<([^>]*)>\"\x7d]\x7d, " ++
    "\"wordingsSource\": \"" ++ wordings ++ "\"\x7d")))

/-- A project with the keys `a.*` and `d`, wordings with the keys `a.1` and `b`, settings for both,
and settings that miss one of them. -/
def sampleWorld : World where
  files := {
    top := .directory [
      (Text.of "c.json", sampleSettings "p" "w.arb"),
      (Text.of "no-project.json", sampleSettings "q" "w.arb"),
      (Text.of "no-wordings.json", sampleSettings "p" "v.arb"),
      (Text.of "p", .directory [(Text.of "a.js", .file (Utf8.encode (Text.of "t<a.*> t<d>")))]),
      (Text.of "w.arb", .file (Utf8.encode (Text.of "\x7b\"a.1\": \"\", \"b\": \"\"\x7d")))]
    workingDirectory := [] }
  server := none

/-- The settings of `c.json`. -/
def sampleConfig : Config where
  projectPath := some ['p']
  project := some { legacyMatches := [⟨Text.of "t<([^>]*)>", none⟩] }
  wordingsSource := some (Text.of "w.arb")
  wildcard := some (Text.of "\\*")
  acceptPart := false

/-- Of the keys in the wordings `b` is left over; `a.*` stands for `a.1`. A file that is missing
ends the audit with the error of the side it is needed for. -/
theorem orphan_runs_agree_sample :
    outcome sampleWorld (Text.of "x.json") .orphanFile =
        .error (.readConfig (Text.of "x.json") .notFound) ∧
      outcome sampleWorld (Text.of "no-project.json") .orphanFile =
        .error (.projectKeys (.file (Text.of "q") .notFound)) ∧
      outcome sampleWorld (Text.of "no-wordings.json") .orphanFile =
        .error (.fileKeys (.file (Text.of "v.arb") .notFound)) ∧
      (loadConfig sampleWorld (Text.of "c.json")).run.value = .ok sampleConfig ∧
      outcome sampleWorld (Text.of "c.json") .orphanFile =
        .ok ⟨.orphanFile, ⟨[Text.of "b"], by decide⟩⟩ ∧
      LeftOver sampleConfig ⟨[Text.of "a.*", Text.of "d"], by decide⟩
        ⟨[Text.of "a.1", Text.of "b"], by decide⟩ ⟨[Text.of "b"], by decide⟩ .second ∧
      sampleConfig.Same (Text.of "a.*") (Text.of "a.1") := by
  have hload (name : Text) (h : (loadConfig sampleWorld name).run.value.isOk = true) :
      ∃ config, (loadConfig sampleWorld name).run.value = .ok config := by
    cases hvalue : (loadConfig sampleWorld name).run.value with
    | ok config => exact ⟨config, rfl⟩
    | error e => rw [hvalue] at h; cases h
  have hc : (loadConfig sampleWorld (Text.of "c.json")).run.value = .ok sampleConfig := by
    decide +kernel
  obtain ⟨_, hp⟩ := hload (Text.of "no-project.json") (by decide +kernel)
  obtain ⟨_, hw⟩ := hload (Text.of "no-wordings.json") (by decide +kernel)
  have hproject : outcome sampleWorld (Text.of "c.json") .allProject =
      .ok ⟨.allProject, ⟨[Text.of "a.*", Text.of "d"], by decide⟩⟩ := by decide +kernel
  have hfile : outcome sampleWorld (Text.of "c.json") .allFile =
      .ok ⟨.allFile, ⟨[Text.of "a.1", Text.of "b"], by decide⟩⟩ := by decide +kernel
  have horphan : outcome sampleWorld (Text.of "c.json") .orphanFile =
      .ok ⟨.orphanFile, ⟨[Text.of "b"], by decide⟩⟩ := by decide +kernel
  have hnoProject : outcome sampleWorld (Text.of "no-project.json") .allProject =
      .error (.projectKeys (.file (Text.of "q") .notFound)) := by decide +kernel
  have hother : outcome sampleWorld (Text.of "no-wordings.json") .allProject =
      .ok ⟨.allProject, ⟨[Text.of "a.*", Text.of "d"], by decide⟩⟩ := by decide +kernel
  have hnoFile : outcome sampleWorld (Text.of "no-wordings.json") .allFile =
      .error (.fileKeys (.file (Text.of "v.arb") .notFound)) := by decide +kernel
  refine ⟨?_, ?_, ?_, hc, horphan, ?_, ?_⟩
  · exact (orphan_runs_agree sampleWorld (Text.of "x.json")).1 _ (by decide +kernel) .orphanFile
  · have h := (orphan_runs_agree sampleWorld (Text.of "no-project.json")).2.1 _ hp .second
    exact (h.2.1 _ hnoProject).1
  · have h := (orphan_runs_agree sampleWorld (Text.of "no-wordings.json")).2.1 _ hw .second
    exact h.2.2.1 _ _ hother hnoFile
  · have h := (orphan_runs_agree sampleWorld (Text.of "c.json")).2.1 _ hc .second
    obtain ⟨orphans, horphans, hleft⟩ := h.2.2.2 _ _ hproject hfile
    cases horphan.symm.trans horphans
    exact hleft
  · have hplaces : (Pattern.ofText? (Text.of "\\*")).map (fun p => p.places (Text.of "a.*")) =
        some [⟨2, 3⟩] := by decide +kernel
    obtain ⟨p, hp, hplaces⟩ := Option.map_eq_some_iff.mp hplaces
    refine .filled rfl hp ?_ ?_
    · rw [hplaces]
      exact List.cons_ne_nil _ _
    · rw [hplaces]
      exact .span 0 ['1'] (.rest 3)

end Audit

end WordingAudit
