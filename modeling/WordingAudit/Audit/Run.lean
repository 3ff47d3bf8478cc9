import WordingAudit.Audit.Mode
import WordingAudit.Config.Decode
import WordingAudit.Project.Scan
import WordingAudit.Wordings.Load

/-!
A whole audit: the settings are read and checked before anything else is touched, then the keys of
the project and of the wordings are collected as the mode needs them.
-/

namespace WordingAudit

/-- A part of an audit that knows what it was for when it fails. -/
abbrev Auditing (α : Type) := ExceptT RunError Traced α

namespace Auditing

/-- A step with the name under which its error is reported. -/
def ofStep {α : Type} (wrap : AuditError → RunError) (step : Audited α) : Auditing α :=
  ExceptT.mk do
    let result ← ExceptT.run step
    return result.mapError wrap

def ofResult {α : Type} (r : Except RunError α) : Auditing α := ExceptT.mk (pure r)

end Auditing

namespace Audit

/-- The settings of a configuration file, with their patterns checked. Relative paths in it are
relative to the directory it stands in. -/
def loadConfig (w : World) (path : Text) : Auditing Config := do
  ExceptT.lift (Traced.act (.readFile path))
  let content ← Auditing.ofResult ((w.files.readText path).mapError fun e => .readConfig path e)
  let config ← Auditing.ofResult ((Config.read content).mapError fun e => .parseConfig path e)
  let config := config.resolvePaths (Path.parent path)
  Auditing.ofResult (config.validate.mapError fun e => .invalidConfig path e)
  return config

def projectKeys (w : World) (c : Config) : Auditing KeySet := do
  let project ← Auditing.ofResult (c.projectRules.mapError .step)
  Auditing.ofStep .projectKeys (Project.keys w c.projectPath project)

def fileKeys (w : World) (c : Config) : Auditing KeySet := do
  let substitutions ← Auditing.ofResult (c.wordings.compile.mapError .step)
  Auditing.ofStep .fileKeys (Wordings.keys w c.wordingsSource substitutions)

/-- The keys of one side that the other lacks. -/
def orphanKeys (w : World) (c : Config) (side : Side) : Auditing KeySet := do
  let comparison ← Auditing.ofResult (c.comparison.mapError .step)
  let project ← projectKeys w c
  let file ← fileKeys w c
  ExceptT.lift (comparison.diff project.toList file.toList side)

/-- The keys that a mode asks for. -/
def collect (w : World) (c : Config) : Mode → Auditing KeySet
  | .allProject => projectKeys w c
  | .allFile => fileKeys w c
  | .orphanProject => orphanKeys w c .first
  | .orphanFile => orphanKeys w c .second

def run (w : World) (path : Text) (mode : Mode) : Auditing Report := do
  let config ← loadConfig w path
  let keys ← collect w config mode
  return ⟨mode, keys⟩

end Audit

end WordingAudit
