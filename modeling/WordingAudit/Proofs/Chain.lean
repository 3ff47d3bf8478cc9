import WordingAudit.Rule.Extraction
import WordingAudit.Proofs.Traced

/-!
The keys of a rule without the events it reports. Each step hands every text it yields to the steps
after it, whatever the depth at which it stands.
-/

namespace WordingAudit

namespace CompiledStep

/-- The keys that a chain of steps takes from a text. -/
def keys : List CompiledStep → Text → List Text
  | [], t => if t.isEmpty then [] else [t]
  | s :: rest, t => (s.results t).flatMap (keys rest)

/-- What stands after a step that ignores a pattern sees a text if the pattern does not occur in
it. -/
theorem keys_ignore (p : Pattern) (further : List CompiledStep) (t : Text) :
    keys (ignore p :: further) t = if p.occursIn t then [] else keys further t := by
  rw [keys, results]
  split
  · rfl
  · exact List.flatMap_singleton _ _

theorem filterMap_reports (s : CompiledStep) (depth : UInt64) (t : Text) :
    (s.reports depth t).filterMap (·.2) = s.results t := by
  cases s with
  | extract p group =>
      rw [reports, results, List.filterMap_map]
      congr 1
      funext m
      rw [Function.comp_apply]
      cases groupOf? group t m <;> rfl
  | replace p template => rfl
  | ignore p =>
      rw [reports, results]
      split <;> rfl

theorem chain_value (depth : UInt64) (steps : List CompiledStep) (t : Text) :
    (chain depth steps t).value = keys steps t := by
  induction steps generalizing depth t with
  | nil => rfl
  | cons s rest ih =>
      rw [chain, Traced.value_flatMap, keys, ← filterMap_reports s depth]
      induction s.reports depth t with
      | nil => rfl
      | cons report others hothers =>
          obtain ⟨event, _ | value⟩ := report
          · rw [List.flatMap_cons, List.filterMap_cons_none rfl, ← hothers]
            cases event <;> rfl
          · have hcons : List.filterMap (·.2) ((event, some value) :: others) =
                value :: others.filterMap (·.2) := rfl
            rw [List.flatMap_cons, hcons, List.flatMap_cons, ← hothers, ← ih (depth + 1)]
            cases event <;> rfl

/-- A chain of steps does nothing but report, and each event is one that a step of it reports. -/
theorem only_chain {P : Action → Prop}
    (hP : ∀ {s : CompiledStep} {depth : UInt64} {t : Text} {report : Option Event × Option Text},
      report ∈ s.reports depth t → ∀ {e : Event}, report.1 = some e → P (.report e))
    (depth : UInt64) (steps : List CompiledStep) (t : Text) :
    Traced.Only P (chain depth steps t) := by
  induction steps generalizing depth t with
  | nil => exact Traced.only_pure _
  | cons s rest ih =>
      rw [chain]
      refine Traced.only_flatMap fun report hreport => ?_
      obtain ⟨event, _ | value⟩ := report
      · cases event with
        | none => exact Traced.only_pure []
        | some e =>
            exact .bind (Traced.only_act (hP hreport rfl)) fun _ => Traced.only_pure []
      · have hvalue := ih (depth + 1) value
        cases event with
        | none => exact hvalue
        | some e => exact .bind (Traced.only_act (hP hreport rfl)) fun _ => hvalue

end CompiledStep

namespace CompiledRule

theorem apply_value (r : CompiledRule) (t : Text) (depth : UInt64) :
    (r.apply t depth).value = CompiledStep.keys r.steps t :=
  CompiledStep.chain_value depth r.steps t

theorem applyAll_value (rules : List CompiledRule) (t : Text) :
    (applyAll rules t).value = rules.flatMap fun r => CompiledStep.keys r.steps t := by
  rw [applyAll, Traced.value_flatMap]
  simp only [apply_value]

theorem applyAll_append_value (rules others : List CompiledRule) (t : Text) :
    (applyAll (rules ++ others) t).value =
      (applyAll rules t).value ++ (applyAll others t).value := by
  simp only [applyAll_value, List.flatMap_append]

end CompiledRule

end WordingAudit
