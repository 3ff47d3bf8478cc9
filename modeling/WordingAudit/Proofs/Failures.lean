import WordingAudit.Proofs.Collection

/-!
What can go wrong in an audit, and when. Settings that cannot be used end it before anything but
their own file is touched. Once they are accepted no pattern is refused any more: what is left are
settings that are missing, and files and servers that do not give what they should.
-/

namespace WordingAudit

open Traced

namespace Traced

variable {α β ε : Type}

/-- A computation sends no more requests than a number. -/
def SendsAtMost (n : Nat) (x : Traced α) : Prop := x.requests.length ≤ n

theorem sendsAtMost_of_only {x : Traced α} (h : Only (fun a => a.request? = none) x) :
    SendsAtMost 0 x := by
  rw [SendsAtMost, requests, List.filterMap_eq_nil_iff.mpr h]
  exact Nat.le_refl 0

theorem SendsAtMost.run_bind {m n : Nat} {x : ExceptT ε Traced α} {f : α → ExceptT ε Traced β}
    (hx : SendsAtMost m x.run) (hf : ∀ a, SendsAtMost n (f a).run) :
    SendsAtMost (m + n) (x >>= f).run := by
  rw [SendsAtMost, requests] at hx ⊢
  cases hvalue : x.run.value with
  | ok a =>
      have ha := hf a
      rw [SendsAtMost, requests] at ha
      rw [(run_bind_ok hvalue f).2, List.filterMap_append, List.length_append]
      omega
  | error e =>
      rw [(run_bind_error hvalue f).2]
      omega

theorem SendsAtMost.zero_bind {n : Nat} {x : ExceptT ε Traced α} {f : α → ExceptT ε Traced β}
    (hx : SendsAtMost 0 x.run) (hf : ∀ a, SendsAtMost n (f a).run) :
    SendsAtMost n (x >>= f).run :=
  Nat.zero_add n ▸ hx.run_bind hf

end Traced

/-- Settings, once read and checked, can still lack a place to look at. These and the outside world
are why the keys of a project may not be found. -/
inductive Config.ProjectFailure (c : Config) : AuditError → Prop
  | noPath (h : c.projectPath = none) : ProjectFailure c (.settings .noProjectPath)
  | noParser (h : c.project = none) : ProjectFailure c (.settings .noProjectParser)
  | file (path : Text) (problem : FileProblem) : ProjectFailure c (.file path problem)

/-- Why the keys of the wordings may not be found. -/
inductive Config.WordingsFailure (c : Config) : AuditError → Prop
  | noSource (h : c.wordingsSource = none) : WordingsFailure c (.settings .noWordingsSource)
  | format {source : Text} (h : c.wordingsSource = some source) :
      WordingsFailure c (.unsupportedFormat source)
  | file (path : Text) (problem : FileProblem) : WordingsFailure c (.file path problem)
  | fetch (url : Text) (problem : FetchProblem) : WordingsFailure c (.fetch url problem)
  | json (source : Text) (problem : JsonProblem) : WordingsFailure c (.json source problem)

/-- None of these refuses a pattern, or a rule for its length, or settings for want of a rule. -/
theorem Config.ProjectFailure.not_refused {c : Config} {cause : AuditError}
    (h : c.ProjectFailure cause) :
    (RunError.projectKeys cause).kind ≠ .patternSyntax ∧
      (RunError.projectKeys cause).cause? ≠ some (.settings .tooDeep) ∧
      (RunError.projectKeys cause).cause? ≠ some (.settings .noRules) := by
  cases h <;> refine ⟨?_, ?_, ?_⟩ <;> intro heq <;> cases heq

theorem Config.WordingsFailure.not_refused {c : Config} {cause : AuditError}
    (h : c.WordingsFailure cause) :
    (RunError.fileKeys cause).kind ≠ .patternSyntax ∧
      (RunError.fileKeys cause).cause? ≠ some (.settings .tooDeep) ∧
      (RunError.fileKeys cause).cause? ≠ some (.settings .noRules) := by
  cases h <;> refine ⟨?_, ?_, ?_⟩ <;> intro heq <;> cases heq

namespace Project

variable {w : World} {e : AuditError}

theorem list_error {root : Text} (h : (list w root).run.value = .error e) :
    ∃ path problem, e = .file path problem := by
  rw [list_value, Result.bind_eq_error] at h
  rcases h with h | ⟨node, -, h⟩
  · obtain ⟨problem, -, rfl⟩ := Result.mapError_eq_error.mp h
    exact ⟨_, _, rfl⟩
  · split at h <;> cases h
    exact ⟨_, _, rfl⟩

/-- A scan fails only at files and directories. -/
theorem scan_error {root : Text} {project : ProjectRules}
    (h : (scan w root project).run.value = .error e) : ∃ path problem, e = .file path problem := by
  rw [scan_value, Result.bind_eq_error] at h
  rcases h with h | ⟨entries, -, h⟩
  · exact list_error h
  · obtain ⟨entry, -, hentry⟩ := List.exists_of_findSome?_eq_some (scanEntries_eq_error.mp h)
    obtain ⟨-, problem, -, rfl⟩ := WalkEntry.failure?_eq_some.mp hentry
    exact ⟨_, _, rfl⟩

end Project

namespace Wordings

variable {w : World} {e : AuditError}

theorem readJson_error {source content : Text} (h : readJson source content = .error e) :
    e = .json source .syntaxError := by
  rw [readJson] at h
  cases hvalue : Json.read? content with
  | none =>
      rw [hvalue] at h
      cases h
      rfl
  | some value =>
      rw [hvalue] at h
      cases h

theorem ofSource_error {source : Text} (h : Locator.ofSource source = .error e) :
    e = .unsupportedFormat source := by
  rw [Locator.ofSource] at h
  split at h
  · cases h
  · split at h
    · cases h
    · split at h <;> cases h
      rfl

theorem fetch_error {url : Text} (h : (fetch w url).run.value = .error e) :
    ∃ problem, e = .fetch url problem := by
  rw [fetch_value] at h
  split at h
  · cases h
    exact ⟨_, rfl⟩
  · cases h
    exact ⟨_, rfl⟩
  · obtain ⟨problem, -, rfl⟩ := Result.mapError_eq_error.mp h
    exact ⟨problem, rfl⟩

/-- Loading fails at the file, at the server or at what they hold. -/
theorem load_error {place : Locator} (h : (load w place).run.value = .error e) :
    (∃ path problem, e = .file path problem) ∨ (∃ url problem, e = .fetch url problem) ∨
      ∃ source problem, e = .json source problem := by
  cases place with
  | url url =>
      rw [load_url_value, Result.bind_eq_error] at h
      rcases h with h | ⟨content, -, h⟩
      · obtain ⟨problem, rfl⟩ := fetch_error h
        exact .inr (.inl ⟨_, _, rfl⟩)
      · exact .inr (.inr ⟨_, _, readJson_error (Result.map_eq_error.mp h)⟩)
  | file path format =>
      rw [load_file_value, Result.bind_eq_error] at h
      rcases h with h | ⟨content, -, h⟩
      · obtain ⟨problem, -, rfl⟩ := Result.mapError_eq_error.mp h
        exact .inl ⟨_, _, rfl⟩
      · exact .inr (.inr ⟨_, _, readJson_error (Result.map_eq_error.mp h)⟩)

end Wordings

theorem ProjectSettings.rules_ne_nil {s : ProjectSettings} {project : ProjectRules}
    (h : s.compile = .ok project) : project.rules ≠ [] := by
  rw [compile] at h
  split at h
  · cases h
  · rename_i hrules
    obtain ⟨rules, hcompiled, rfl⟩ := Result.map_eq_ok.mp h
    rw [List.isEmpty_iff] at hrules
    obtain ⟨r, rest, hset⟩ := List.exists_cons_of_ne_nil hrules
    rw [hset] at hcompiled
    obtain ⟨first, others, -, -, rfl⟩ := Result.mapM_cons_eq_ok.mp hcompiled
    exact List.cons_ne_nil _ _

namespace Audit

variable {w : World} {c : Config} {e : RunError}

/-- The patterns of checked settings are read a second time without error. -/
theorem projectKeys_error (hvalid : c.validate = .ok ())
    (h : (projectKeys w c).run.value = .error e) :
    ∃ cause, e = .projectKeys cause ∧ c.ProjectFailure cause := by
  obtain ⟨⟨project, hproject⟩, -, -⟩ := validate_eq_ok.mp hvalid
  rw [projectKeys_value, hproject] at h
  obtain ⟨cause, hcause, rfl⟩ := Result.mapError_eq_error.mp h
  refine ⟨cause, rfl, ?_⟩
  cases hpath : c.projectPath with
  | none =>
      rw [hpath] at hcause
      cases hcause
      exact .noPath hpath
  | some root =>
      rw [hpath] at hcause
      cases hsettings : c.project with
      | none =>
          rw [Config.projectRules, hsettings] at hproject
          cases hproject
          cases hcause
          exact .noParser hsettings
      | some s =>
          rw [Config.projectRules, hsettings] at hproject
          obtain ⟨compiled, hcompiled, rfl⟩ := Result.map_eq_ok.mp hproject
          have hrules : compiled.rules.isEmpty = false :=
            List.isEmpty_eq_false_iff.mpr (ProjectSettings.rules_ne_nil hcompiled)
          rw [Project.keys_value, hrules] at hcause
          obtain ⟨path, problem, rfl⟩ := Project.scan_error (Result.map_eq_error.mp hcause)
          exact .file path problem

theorem fileKeys_error (hvalid : c.validate = .ok ())
    (h : (fileKeys w c).run.value = .error e) :
    ∃ cause, e = .fileKeys cause ∧ c.WordingsFailure cause := by
  obtain ⟨-, ⟨list, hlist⟩, -⟩ := validate_eq_ok.mp hvalid
  rw [fileKeys_value, hlist] at h
  obtain ⟨cause, hcause, rfl⟩ := Result.mapError_eq_error.mp h
  refine ⟨cause, rfl, ?_⟩
  cases hsource : c.wordingsSource with
  | none =>
      rw [hsource] at hcause
      cases hcause
      exact .noSource hsource
  | some source =>
      rw [hsource, Wordings.keys_value, Result.bind_eq_error] at hcause
      rcases hcause with hplace | ⟨place, -, hload⟩
      · rw [Wordings.ofSource_error hplace]
        exact .format hsource
      · rcases Wordings.load_error (Result.map_eq_error.mp hload) with
          ⟨path, problem, rfl⟩ | ⟨url, problem, rfl⟩ | ⟨source, problem, rfl⟩
        · exact .file path problem
        · exact .fetch url problem
        · exact .json source problem

/-- An audit with checked settings ends with an error of the side that its mode asks for. -/
theorem collect_error (hvalid : c.validate = .ok ()) {mode : Mode}
    (h : (collect w c mode).run.value = .error e) :
    (mode ≠ .allFile ∧ ∃ cause, e = .projectKeys cause ∧ c.ProjectFailure cause) ∨
      (mode ≠ .allProject ∧ ∃ cause, e = .fileKeys cause ∧ c.WordingsFailure cause) := by
  have horphan (side : Side) (h : (orphanKeys w c side).run.value = .error e) :
      (∃ cause, e = .projectKeys cause ∧ c.ProjectFailure cause) ∨
        ∃ cause, e = .fileKeys cause ∧ c.WordingsFailure cause := by
    obtain ⟨-, -, comparison, hcomparison⟩ := validate_eq_ok.mp hvalid
    rw [orphanKeys_value hcomparison, Result.bind_eq_error] at h
    rcases h with h | ⟨project, -, h⟩
    · exact .inl (projectKeys_error hvalid h)
    · rcases Result.bind_eq_error.mp h with h | ⟨file, -, h⟩
      · exact .inr (fileKeys_error hvalid h)
      · cases h
  cases mode with
  | allProject => exact .inl ⟨nofun, projectKeys_error hvalid h⟩
  | allFile => exact .inr ⟨nofun, fileKeys_error hvalid h⟩
  | orphanProject => exact (horphan .first h).imp (⟨nofun, ·⟩) (⟨nofun, ·⟩)
  | orphanFile => exact (horphan .second h).imp (⟨nofun, ·⟩) (⟨nofun, ·⟩)

end Audit

/-! ### Requests -/

theorem Action.request?_eq_none {a : Action} (h : ¬a.TouchesWordings) : a.request? = none := by
  cases a with
  | request line => exact absurd trivial h
  | report event => rfl
  | readFile path => rfl
  | walkTree path => rfl

theorem Traced.sendsAtMost_of_spares {α : Type} {x : Traced α} (h : SparesWordings x) :
    SendsAtMost 0 x :=
  sendsAtMost_of_only fun a ha => Action.request?_eq_none (h a ha)

namespace Wordings

theorem sendsAtMost_fetch (w : World) (url : Text) : SendsAtMost 1 (fetch w url).run := by
  have hsent (line : Text) (r : Except AuditError Text) : SendsAtMost 1 (do
      Audited.act (.request line)
      Audited.ofResult r : Audited Text).run := by
    rw [SendsAtMost, requests, (run_bind_ok rfl _).2]
    exact Nat.le_refl 1
  have hreport : SendsAtMost 0 (Audited.report (.fetching url)).run :=
    sendsAtMost_of_only (Only.lift (only_act rfl))
  rw [fetch]
  refine hreport.zero_bind fun _ => ?_
  cases Url.ofText? url with
  | none => exact Nat.zero_le 1
  | some u =>
      cases w.server with
      | none => exact Nat.zero_le 1
      | some reply => exact hsent _ _

theorem sendsAtMost_entries (format : ResourceFormat) (source content : Text) :
    SendsAtMost 0 (do
      let value ← Audited.ofResult (readJson source content)
      Audited.ofTraced (entries format source value) : Audited Entries).run := by
  refine sendsAtMost_of_only (Only.run_bind (only_ofResult _) fun value => Only.lift ?_)
  rw [entries.eq_def]
  split
  · exact only_pure _
  · exact only_pure _
  · exact Only.bind (only_act rfl) fun _ => only_pure _

theorem sendsAtMost_load (w : World) (place : Locator) : SendsAtMost 1 (load w place).run := by
  cases place with
  | url url =>
      exact (sendsAtMost_fetch w url).run_bind fun content =>
        sendsAtMost_entries .nested url content
  | file path format =>
      have hreport : SendsAtMost 0 (Audited.report (.reading path format)).run :=
        sendsAtMost_of_only (Only.lift (only_act rfl))
      have hread : SendsAtMost 0 (w.readText path).run :=
        sendsAtMost_of_only (Only.run_bind (Only.lift (only_act rfl)) fun _ => only_ofResult _)
      exact Nat.le_succ_of_le (hreport.run_bind fun _ => hread.run_bind fun content =>
        sendsAtMost_entries format path content)

theorem sendsAtMost_keys (w : World) (source : Option Text) (list : List CompiledSubstitution) :
    SendsAtMost 1 (keys w source list).run := by
  cases source with
  | none => exact Nat.zero_le 1
  | some source =>
      refine (sendsAtMost_of_only (only_ofResult _)).zero_bind fun place => ?_
      exact (sendsAtMost_load w place).run_bind fun found => sendsAtMost_of_only (only_pure _)

end Wordings

/-- A comparison does nothing but report. -/
theorem Comparison.only_select (c : Comparison) (first second : List Text) (side : Side)
    (keep : Bool) : Only (fun a => a.request? = none) (c.select first second side keep) := by
  have hequivalent (l : LocalKey) (server : Text) :
      Only (fun a => a.request? = none) (c.isEquivalent l server) := by
    rw [isEquivalent]
    split
    · exact only_pure true
    · split
      · exact Only.bind (only_act rfl) fun _ => only_pure true
      · exact only_pure _
  cases side with
  | first =>
      refine Only.bind (only_filter (fun l => ?_) _) fun chosen => only_pure _
      exact Only.bind (only_any (fun server => hequivalent l server) second) fun _ => only_pure _
  | second =>
      refine Only.bind (only_filter (fun server => ?_) _) fun chosen => only_pure _
      exact Only.bind (only_any (fun l => hequivalent l server) _) fun _ => only_pure _

namespace Audit

variable (w : World) (c : Config)

theorem sendsAtMost_projectKeys : SendsAtMost 0 (projectKeys w c).run :=
  sendsAtMost_of_spares (spares_projectKeys w c)

theorem sendsAtMost_fileKeys : SendsAtMost 1 (fileKeys w c).run := by
  have hstep (list : List CompiledSubstitution) : SendsAtMost 1
      (Auditing.ofStep .fileKeys (Wordings.keys w c.wordingsSource list)).run := by
    have hkeys := Wordings.sendsAtMost_keys w c.wordingsSource list
    rw [SendsAtMost, requests] at hkeys ⊢
    rwa [Auditing.ofStep, ExceptT.run_mk, actions_bind, actions_pure, List.append_nil]
  exact (sendsAtMost_of_only (only_ofResult _)).zero_bind hstep

theorem sendsAtMost_orphanKeys (side : Side) : SendsAtMost 1 (orphanKeys w c side).run := by
  have hdiff (comparison : Comparison) (project file : KeySet) : SendsAtMost 0
      (ExceptT.lift (comparison.diff project.toList file.toList side) : Auditing KeySet).run :=
    sendsAtMost_of_only (Only.lift (comparison.only_select _ _ side false))
  refine (sendsAtMost_of_only (only_ofResult _)).zero_bind fun comparison => ?_
  refine (sendsAtMost_projectKeys w c).zero_bind fun project => ?_
  exact (sendsAtMost_fileKeys w c).run_bind fun file => hdiff comparison project file

theorem sendsAtMost_collect (mode : Mode) :
    SendsAtMost (if mode = .allProject then 0 else 1) (collect w c mode).run := by
  cases mode with
  | allProject => exact sendsAtMost_projectKeys w c
  | allFile => exact sendsAtMost_fileKeys w c
  | orphanProject => exact sendsAtMost_orphanKeys w c .first
  | orphanFile => exact sendsAtMost_orphanKeys w c .second

/-- The wordings are asked for at most once, and not at all for the keys of a project. -/
theorem sendsAtMost_run (path : Text) (mode : Mode) :
    SendsAtMost (if mode = .allProject then 0 else 1) (run w path mode).run := by
  refine (sendsAtMost_of_spares (spares_loadConfig w path)).zero_bind fun config => ?_
  exact (sendsAtMost_collect w config mode).run_bind fun keys => sendsAtMost_of_only (only_pure _)

/-- Loading the settings does nothing but read their file, whether they can be used or not. -/
theorem loadConfig_actions (path : Text) : (loadConfig w path).run.actions = [.readFile path] := by
  have hrest : Only (fun _ => False) (do
      let content ← Auditing.ofResult ((w.files.readText path).mapError fun e => .readConfig path e)
      let config ← Auditing.ofResult ((Config.read content).mapError fun e => .parseConfig path e)
      let config := config.resolvePaths (Path.parent path)
      Auditing.ofResult (config.validate.mapError fun e => .invalidConfig path e)
      return config : Auditing Config).run := by
    refine Only.run_bind (only_ofResult _) fun content => ?_
    refine Only.run_bind (only_ofResult _) fun config => ?_
    exact Only.run_bind (only_ofResult _) fun _ => only_pure _
  rw [loadConfig, (run_bind_ok rfl _).2, List.eq_nil_iff_forall_not_mem.mpr hrest]
  rfl

/-- Settings that cannot be used end an audit before anything else is touched. With settings that
can be used, no pattern is refused any more and no rule is too long or missing: an audit ends with
an error only where a setting it needs is missing, or the project or the wordings cannot be read.
It sends one request at most, and none for the keys of a project. -/
theorem failures_of_run (w : World) (path : Text) :
    (∀ e, (loadConfig w path).run.value = .error e → ∀ mode,
      outcome w path mode = .error e ∧ (run w path mode).run.actions = [.readFile path]) ∧
    (∀ config, (loadConfig w path).run.value = .ok config → ∀ mode e,
      outcome w path mode = .error e →
        ((mode ≠ .allFile ∧ ∃ cause, e = .projectKeys cause ∧ config.ProjectFailure cause) ∨
          (mode ≠ .allProject ∧ ∃ cause, e = .fileKeys cause ∧ config.WordingsFailure cause)) ∧
        e.kind ≠ .patternSyntax ∧ e.cause? ≠ some (.settings .tooDeep) ∧
        e.cause? ≠ some (.settings .noRules)) ∧
    (∀ mode, (run w path mode).run.requests.length ≤ 1) ∧
    (run w path .allProject).run.requests = [] := by
  refine ⟨fun e he mode => ⟨run_of_loadConfig_error he mode, ?_⟩, fun config hload mode e he => ?_,
    fun mode => ?_, ?_⟩
  · rw [run, (run_bind_error he _).2, loadConfig_actions]
  · rw [outcome_eq hload, Result.bind_eq_error] at he
    rcases he with he | ⟨keys, -, hkeys⟩
    · have hcases := collect_error (validate_of_loadConfig hload) he
      refine ⟨hcases, ?_⟩
      rcases hcases with ⟨-, cause, rfl, hcause⟩ | ⟨-, cause, rfl, hcause⟩
      · exact hcause.not_refused
      · exact hcause.not_refused
    · cases hkeys
  · have hsent := sendsAtMost_run w path mode
    split at hsent
    · exact Nat.le_succ_of_le hsent
    · exact hsent
  · exact List.length_eq_zero_iff.mp (Nat.le_zero.mp (sendsAtMost_run w path .allProject))

/-- Settings for a directory `p`, with a pattern and, after it, what else they say. -/
def settingsFile (pattern others : String) : Node :=
  .file (Utf8.encode (Text.of ("\x7b\"projectSourcePath\": \"p\", " ++
    "\"projectSourceParser\": \x7b\"rules\": [\x7b\"type\": \"match\", \"pattern\": \"" ++
    pattern ++ "\"\x7d]\x7d" ++ others ++ "\x7d")))

/-- An empty project, a server, settings that can be used, some with a bad pattern, and some that
name no wordings. -/
def remoteWorld : World where
  files := {
    top := .directory [
      (Text.of "bad.json", settingsFile "(" ", \"wordingsSource\": \"http://h/w.json\""),
      (Text.of "c.json", settingsFile "k." ", \"wordingsSource\": \"http://h/w.json\""),
      (Text.of "late.json", settingsFile "k." ""),
      (Text.of "p", .directory [])]
    workingDirectory := [] }
  server := some ⟨200, Utf8.encode (Text.of "\x7b\"k1\": 1\x7d"), 0⟩

theorem failures_of_run_sample :
    (loadConfig remoteWorld (Text.of "bad.json")).run.value =
        .error (.invalidConfig (Text.of "bad.json") (.pattern ['('])) ∧
      (run remoteWorld (Text.of "bad.json") .orphanFile).run.actions =
        [.readFile (Text.of "bad.json")] ∧
      (∃ config, (loadConfig remoteWorld (Text.of "late.json")).run.value = .ok config ∧
        outcome remoteWorld (Text.of "late.json") .orphanFile =
          .error (.fileKeys (.settings .noWordingsSource)) ∧
        config.WordingsFailure (.settings .noWordingsSource)) ∧
      (run remoteWorld (Text.of "c.json") .orphanFile).run.requests.length = 1 := by
  have hbad : (loadConfig remoteWorld (Text.of "bad.json")).run.value =
      .error (.invalidConfig (Text.of "bad.json") (.pattern ['('])) := by decide +kernel
  have hloads : (loadConfig remoteWorld (Text.of "late.json")).run.value.isOk = true := by
    decide +kernel
  have hlate : outcome remoteWorld (Text.of "late.json") .orphanFile =
      .error (.fileKeys (.settings .noWordingsSource)) := by decide +kernel
  have hsent : 1 ≤ (run remoteWorld (Text.of "c.json") .orphanFile).run.requests.length := by
    decide +kernel
  obtain ⟨hfails, -, -, -⟩ := failures_of_run remoteWorld (Text.of "bad.json")
  obtain ⟨-, -, hrequests, -⟩ := failures_of_run remoteWorld (Text.of "c.json")
  refine ⟨hbad, (hfails _ hbad .orphanFile).2, ?_, Nat.le_antisymm (hrequests .orphanFile) hsent⟩
  cases hload : (loadConfig remoteWorld (Text.of "late.json")).run.value with
  | error e =>
      rw [hload] at hloads
      cases hloads
  | ok config =>
      obtain ⟨-, hcases, -, -⟩ := failures_of_run remoteWorld (Text.of "late.json")
      obtain ⟨hsides, -⟩ := hcases config hload .orphanFile _ hlate
      rcases hsides with ⟨-, cause, h, -⟩ | ⟨-, cause, h, hcause⟩
      · cases h
      · cases h
        exact ⟨config, rfl, hlate, hcause⟩

end Audit

end WordingAudit
