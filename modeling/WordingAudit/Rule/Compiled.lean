import WordingAudit.Error
import WordingAudit.Rule.Basic
import WordingAudit.Rule.Template

/-!
Rules and substitutions with their patterns read, and what they make of a text.
-/

namespace WordingAudit

/-- A step with its pattern read. -/
inductive CompiledStep
  | extract (pattern : Pattern) (group : Nat)
  | replace (pattern : Pattern) (template : Text)
  | ignore (pattern : Pattern)

/-- A rule with its patterns read. -/
structure CompiledRule where
  first : CompiledStep
  further : List CompiledStep

/-- A substitution with its pattern read. -/
structure CompiledSubstitution where
  pattern : Pattern
  template : Text

/-- The pattern with this text. -/
def compilePattern (source : Text) : Except AuditError Pattern :=
  match Pattern.ofText? source with
  | some p => .ok p
  | none => .error (.pattern source)

namespace Step

def compile : Step → Except AuditError CompiledStep
  | extract source group =>
    (compilePattern source).map fun p => .extract p (group.getD Rule.defaultGroup)
  | replace source replacement =>
    (compilePattern source).map fun p => .replace p (Template.ofReplacement p replacement)
  | ignore source => (compilePattern source).map .ignore

/-- The steps from level `level` on; the level is checked before the pattern. -/
def compileFrom (level : Nat) : List Step → Except AuditError (List CompiledStep)
  | [] => .ok []
  | s :: rest =>
    if Rule.maxSteps < level then .error (.settings .tooDeep)
    else do
      let compiled ← s.compile
      let others ← compileFrom (level + 1) rest
      return compiled :: others

end Step

namespace Rule

def compile (r : Rule) : Except AuditError CompiledRule := do
  let first ← r.first.compile
  let further ← Step.compileFrom 2 r.further
  return ⟨first, further⟩

/-- The rules in order, or the error of the first that has one. -/
def compileAll (rules : List Rule) : Except AuditError (List CompiledRule) := rules.mapM compile

end Rule

namespace Substitution

def compile (s : Substitution) : Except AuditError CompiledSubstitution :=
  (compilePattern s.pattern).map fun p => ⟨p, Template.ofReplacement p s.replacement⟩

def compileAll (list : List Substitution) : Except AuditError (List CompiledSubstitution) :=
  list.mapM compile

end Substitution

namespace CompiledSubstitution

/-- The key with the first occurrence replaced. -/
def apply (s : CompiledSubstitution) (key : Text) : Text :=
  Template.replaceIn s.pattern s.template key

/-- Every substitution in turn on every key; keys that are empty in the end are left out. -/
def applyAll (list : List CompiledSubstitution) (keys : List Text) : List Text :=
  (keys.map fun key => list.foldl (fun k s => s.apply k) key).filter fun key => !key.isEmpty

end CompiledSubstitution

end WordingAudit
