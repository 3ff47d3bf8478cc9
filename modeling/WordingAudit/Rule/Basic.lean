import WordingAudit.Text

/-!
Rules as they are written in a configuration: chains of steps that turn text into keys, and
substitutions of single keys.
-/

namespace WordingAudit

/-- One step of a rule: take a group of every occurrence of a pattern, replace the first occurrence
in the whole text, or drop a text in which the pattern occurs. -/
inductive Step
  | extract (pattern : Text) (group : Option Nat)
  | replace (pattern : Text) (replacement : Option Text)
  | ignore (pattern : Text)
deriving DecidableEq, Repr

/-- A rule: a step, and the steps that go on with what it yields. -/
structure Rule where
  first : Step
  further : List Step
deriving DecidableEq, Repr

/-- A substitution for the first occurrence of a pattern in a key. -/
structure Substitution where
  pattern : Text
  replacement : Option Text
deriving DecidableEq, Repr

namespace Rule

/-- The longest chain that is accepted. -/
def maxSteps : Nat := 64

/-- The group that is taken when a step names none. -/
def defaultGroup : Nat := 1

/-- All steps, from the outermost on. -/
def steps (r : Rule) : List Step := r.first :: r.further

end Rule

/-- The pattern of a step. -/
def Step.pattern : Step → Text
  | extract p _ => p
  | replace p _ => p
  | ignore p => p

/-- A substitution as a step of a rule. -/
def Substitution.toStep (s : Substitution) : Step := .replace s.pattern s.replacement

end WordingAudit
