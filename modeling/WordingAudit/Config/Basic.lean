import WordingAudit.Comparison
import WordingAudit.Files.Path
import WordingAudit.Project.Name
import WordingAudit.Wordings.Locator

/-!
The settings of an audit, and what they amount to once their patterns are read.
-/

namespace WordingAudit

/-- The older form of an extraction: a pattern and the group to take. -/
structure LegacyMatch where
  pattern : Text
  group : Option Nat
deriving DecidableEq, Repr

/-- How keys are found in the files of a project. -/
structure ProjectSettings where
  extensions : Option (List Text) := none
  rules : List Rule := []
  legacyMatches : List LegacyMatch := []
  replaces : List Substitution := []
deriving DecidableEq, Repr

/-- How the keys of the wordings are changed before they are compared. -/
structure WordingsSettings where
  replaces : List Substitution := []
deriving DecidableEq, Repr

/-- The token in project keys when no other is set: an asterisk. -/
def defaultWildcard : Text := Text.of "\\*"

/-- The settings of an audit. `fetchTimeout` is in seconds; no time passes in a `World`, so no fetch
looks at it. -/
structure Config where
  projectPath : Option Text := none
  project : Option ProjectSettings := none
  wordingsSource : Option Text := none
  wordings : WordingsSettings := {}
  wildcard : Option Text := some defaultWildcard
  acceptPart : Bool := false
  fetchTimeout : Nat := 30
deriving DecidableEq, Repr

/-- The rules of a project with their patterns read, and the files to apply them to. -/
structure ProjectRules where
  rules : List CompiledRule
  selector : FileSelector

namespace ProjectSettings

/-- All rules: first those that are written out, then one for each older extraction, which goes on
with every replacement in turn. -/
def ruleSet (s : ProjectSettings) : List Rule :=
  s.rules ++ s.legacyMatches.map fun m =>
    ⟨.extract m.pattern m.group, s.replaces.map Substitution.toStep⟩

def compile (s : ProjectSettings) : Except AuditError ProjectRules :=
  if s.ruleSet.isEmpty then .error (.settings .noRules)
  else (Rule.compileAll s.ruleSet).map fun rules => ⟨rules, .ofExtensions s.extensions⟩

end ProjectSettings

def WordingsSettings.compile (s : WordingsSettings) :
    Except AuditError (List CompiledSubstitution) :=
  Substitution.compileAll s.replaces

namespace Config

/-- The rules of the project, if it has any settings. -/
def projectRules (c : Config) : Except AuditError (Option ProjectRules) :=
  match c.project with
  | none => .ok none
  | some s => s.compile.map some

def comparison (c : Config) : Except AuditError Comparison :=
  Comparison.ofSettings c.wildcard c.acceptPart

/-- Reads every pattern, so that a mistake in one shows before any file is touched. -/
def validate (c : Config) : Except AuditError Unit := do
  let _ ← c.projectRules
  let _ ← c.wordings.compile
  let _ ← c.comparison
  return ()

/-- Takes relative paths relative to a directory; URLs stay as they are. -/
def resolvePaths (c : Config) (base : Text) : Config :=
  { c with
    projectPath := c.projectPath.map (Path.join base)
    wordingsSource := c.wordingsSource.map fun source =>
      if Locator.isUrl source then source else Path.join base source }

end Config

end WordingAudit
