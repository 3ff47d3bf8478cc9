import WordingAudit.Rule.Compiled
import WordingAudit.Trace

/-!
Applying rules to text. A step yields texts in order and the steps after it go on with each; what
the last step yields are keys, the empty text left out.
-/

namespace WordingAudit

namespace CompiledStep

/-- The group of one occurrence, if it takes part and is not empty. -/
def groupOf? (group : Nat) (subject : Text) (m : Pattern.Match) : Option Text :=
  (m.text? subject group).filter fun t => !t.isEmpty

/-- The texts that a step yields, in order. -/
def results (s : CompiledStep) (t : Text) : List Text :=
  match s with
  | extract p group => (p.occurrences t).filterMap (groupOf? group t)
  | replace p template => [Template.replaceIn p template t]
  | ignore p => if p.occursIn t then [] else [t]

/-- The events a step reports, each with the text it yields, if it yields one. -/
def reports (s : CompiledStep) (depth : UInt64) (t : Text) : List (Option Event × Option Text) :=
  match s with
  | extract p group =>
    (p.occurrences t).map fun m =>
      match groupOf? group t m with
      | none => (some (.noGroup depth p.source group), none)
      | some value => (some (.matched depth value), some value)
  | replace p template =>
    let after := Template.replaceIn p template t
    [(some (.replaced depth t after), some after)]
  | ignore p => if p.occursIn t then [(some (.ignored depth t), none)] else [(none, some t)]

/-- The keys that a chain of steps yields. -/
def chain (depth : UInt64) : List CompiledStep → Text → Traced (List Text)
  | [], t => pure (if t.isEmpty then [] else [t])
  | s :: rest, t =>
    Traced.flatMap (fun (report : Option Event × Option Text) => do
      if let some e := report.1 then Traced.report e
      match report.2 with
      | none => pure []
      | some value => chain (depth + 1) rest value) (s.reports depth t)

end CompiledStep

namespace CompiledRule

def steps (r : CompiledRule) : List CompiledStep := r.first :: r.further

/-- The keys that a rule takes from a text; `depth` counts from where its first step stands. -/
def apply (r : CompiledRule) (t : Text) (depth : UInt64) : Traced (List Text) :=
  CompiledStep.chain depth r.steps t

/-- The keys that every rule takes from the same text, one rule after the other. -/
def applyAll (rules : List CompiledRule) (t : Text) : Traced (List Text) :=
  Traced.flatMap (fun r => r.apply t 0) rules

end CompiledRule

end WordingAudit
