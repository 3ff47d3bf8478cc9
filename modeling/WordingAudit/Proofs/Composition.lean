import Mathlib.Data.List.Basic
import Mathlib.Data.List.Flatten
import WordingAudit.Proofs.RuleSet

/-!
A rule that goes on with another rule. The second rule works on every text that the last step of the
first yields. The empty text is one of these, though it is no key of the first rule.
-/

namespace WordingAudit

namespace CompiledStep

variable {s : CompiledStep} {steps : List CompiledStep} {t u : Text}

/-- What the last of a chain of steps yields, the empty text not left out. -/
def outputs : List CompiledStep → Text → List Text
  | [], t => [t]
  | s :: rest, t => (s.results t).flatMap (outputs rest)

theorem outputs_singleton (s : CompiledStep) (t : Text) : outputs [s] t = s.results t := by
  have hnone : outputs [] = fun u => [u] := rfl
  rw [outputs, hnone, List.flatMap_singleton']

theorem outputs_append (steps others : List CompiledStep) (t : Text) :
    outputs (steps ++ others) t = (outputs steps t).flatMap (outputs others) := by
  induction steps generalizing t with
  | nil => rw [List.nil_append, outputs, List.flatMap_singleton]
  | cons s rest ih =>
      rw [List.cons_append, outputs, outputs, List.flatMap_assoc]
      exact List.flatMap_congr fun v _ => ih v

theorem keys_eq_filter_outputs (steps : List CompiledStep) (t : Text) :
    keys steps t = (outputs steps t).filter fun u => !u.isEmpty := by
  induction steps generalizing t with
  | nil =>
      rw [keys, outputs]
      cases t <;> rfl
  | cons s rest ih =>
      rw [keys, outputs, List.filter_flatMap]
      exact List.flatMap_congr fun v _ => ih v

theorem keys_append (steps others : List CompiledStep) (t : Text) :
    keys (steps ++ others) t = (outputs steps t).flatMap (keys others) := by
  rw [keys_eq_filter_outputs, outputs_append, List.filter_flatMap]
  exact List.flatMap_congr fun v _ => (keys_eq_filter_outputs others v).symm

theorem ne_nil_of_mem_keys (h : u ∈ keys steps t) : u ≠ [] := by
  rw [keys_eq_filter_outputs, List.mem_filter] at h
  simpa using h.2

/-- The step makes the empty text of `t`: it replaces all that there is, or it lets the empty text
pass. An extraction never does. -/
def Empties (t : Text) : CompiledStep → Prop
  | extract .. => False
  | replace p template => Template.replaceIn p template t = []
  | ignore p => t = [] ∧ p.occursIn t = false

instance (t : Text) : DecidablePred (Empties t)
  | extract .. => inferInstanceAs (Decidable False)
  | replace .. => inferInstanceAs (Decidable (_ = _))
  | ignore _ => inferInstanceAs (Decidable (_ ∧ _))

theorem results_of_empties (h : s.Empties t) : s.results t = [[]] := by
  cases s with
  | extract p group => exact h.elim
  | replace p template => exact congrArg (fun after => [after]) h
  | ignore p =>
      obtain ⟨rfl, hnone⟩ := h
      rw [results, hnone]
      rfl

theorem ne_nil_of_mem_results (h : ¬s.Empties t) (hu : u ∈ s.results t) : u ≠ [] := by
  rintro rfl
  cases s with
  | extract p group => exact nomatch extract_results_full hu
  | replace p template => exact h (List.mem_singleton.mp hu).symm
  | ignore p =>
      rw [results] at hu
      split at hu
      · exact List.not_mem_nil hu
      · rename_i hnone
        exact h ⟨(List.mem_singleton.mp hu).symm, eq_false_of_ne_true hnone⟩

theorem keys_of_empties (h : s.Empties t) : keys [s] t = [] := by
  rw [keys_eq_filter_outputs, outputs_singleton, results_of_empties h]
  rfl

/-- A step yields its keys, or the empty text alone. -/
theorem results_eq (s : CompiledStep) (t : Text) :
    s.results t = if s.Empties t then [[]] else keys [s] t := by
  split
  · rename_i hempties
    exact results_of_empties hempties
  · rename_i hfull
    have hself : (s.results t).filter (fun u => !u.isEmpty) = s.results t := by
      refine List.filter_eq_self.mpr fun u hu => ?_
      simpa using ne_nil_of_mem_results hfull hu
    rw [keys_eq_filter_outputs, outputs_singleton, hself]

end CompiledStep

namespace CompiledRule

open CompiledStep (Empties)

/-- The rule `r`, whose last step goes on with the rule `s`. -/
def andThen (r s : CompiledRule) : CompiledRule := ⟨r.first, r.further ++ s.steps⟩

def last (r : CompiledRule) : CompiledStep := r.steps.getLast (List.cons_ne_nil _ _)

/-- The texts that come to the last step of a rule, one after the other. -/
def beforeLast (r : CompiledRule) (t : Text) : List Text :=
  CompiledStep.outputs r.steps.dropLast t

theorem outputs_steps (r : CompiledRule) (t : Text) :
    CompiledStep.outputs r.steps t = (r.beforeLast t).flatMap r.last.results := by
  have hsteps : r.steps.dropLast ++ [r.last] = r.steps := List.dropLast_concat_getLast _
  have hlast : CompiledStep.outputs [r.last] = r.last.results :=
    funext (CompiledStep.outputs_singleton r.last)
  rw [beforeLast, ← hlast, ← CompiledStep.outputs_append, hsteps]

/-- The keys of a rule, put together from those that its last step takes. -/
theorem apply_eq_flatMap (r : CompiledRule) (t : Text) (depth : UInt64) :
    (r.apply t depth).value = (r.beforeLast t).flatMap (CompiledStep.keys [r.last]) := by
  rw [apply_value, CompiledStep.keys_eq_filter_outputs, outputs_steps, List.filter_flatMap]
  refine List.flatMap_congr fun v _ => ?_
  rw [CompiledStep.keys_eq_filter_outputs, CompiledStep.outputs_singleton]

/-- What `f` makes of the keys of a rule, with `extra` put in wherever the last step of the rule
makes the empty text. -/
def handOn (r : CompiledRule) (t : Text) (f : Text → List Text) (extra : List Text) : List Text :=
  (r.beforeLast t).flatMap fun v =>
    if r.last.Empties v then extra else (CompiledStep.keys [r.last] v).flatMap f

theorem flatMap_apply (r : CompiledRule) (t : Text) (depth : UInt64) (f : Text → List Text) :
    (r.apply t depth).value.flatMap f = r.handOn t f [] := by
  rw [apply_eq_flatMap, List.flatMap_assoc]
  refine List.flatMap_congr fun v _ => ?_
  split
  · rename_i hempties
    rw [CompiledStep.keys_of_empties hempties]
    rfl
  · rfl

theorem andThen_value (r s : CompiledRule) (t : Text) (depth depth' : UInt64) :
    ((r.andThen s).apply t depth).value =
      r.handOn t (fun key => (s.apply key depth').value) (s.apply [] depth').value := by
  have hsteps : (r.andThen s).steps = r.steps ++ s.steps := rfl
  simp only [apply_value]
  rw [hsteps, CompiledStep.keys_append, outputs_steps, List.flatMap_assoc]
  refine List.flatMap_congr fun v _ => ?_
  rw [CompiledStep.results_eq]
  split
  · rw [List.flatMap_singleton]
  · rfl

theorem handOn_sublist (r : CompiledRule) (t : Text) (f : Text → List Text) (extra : List Text) :
    (r.handOn t f []).Sublist (r.handOn t f extra) := by
  refine List.Sublist.flatMap_right _ fun v _ => ?_
  split
  · exact List.nil_sublist extra
  · exact List.Sublist.refl _

/-- A rule that goes on with another takes the keys that the other takes from its keys. Where its
last step makes the empty text, the keys that the other takes from the empty text are put in as
well, and nothing else is. -/
theorem apply_andThen (r s : CompiledRule) (t : Text) (depth depth' : UInt64) :
    ((s.apply [] depth').value = [] →
      ((r.andThen s).apply t depth).value =
        (r.apply t depth).value.flatMap fun key => (s.apply key depth').value) ∧
    ((r.apply t depth).value.flatMap fun key => (s.apply key depth').value).Sublist
      ((r.andThen s).apply t depth).value ∧
    ((r.apply t depth).value.flatMap fun key => (s.apply key depth').value) =
      r.handOn t (fun key => (s.apply key depth').value) [] ∧
    ((r.andThen s).apply t depth).value =
      r.handOn t (fun key => (s.apply key depth').value) (s.apply [] depth').value := by
  have hcomposed := flatMap_apply r t depth fun key => (s.apply key depth').value
  have hattached := andThen_value r s t depth depth'
  refine ⟨fun hnone => ?_, ?_, hcomposed, hattached⟩
  · rw [hattached, hcomposed, hnone]
  · rw [hattached, hcomposed]
    exact handOn_sublist r t _ _

/-- A rule for groups that replaces `a` by nothing, one that drops the empty text, and one that
fills it. -/
def groupRules? : Option (CompiledRule × CompiledRule × CompiledRule) := do
  let group ← Pattern.ofText? (Text.of "t<([^>]*)>")
  let a ← Pattern.ofText? (Text.of "^a$")
  let x ← Pattern.ofText? (Text.of "x")
  let empty ← Pattern.ofText? (Text.of "^$")
  return (⟨.extract group 1, [.replace a []]⟩, ⟨.ignore x, []⟩, ⟨.replace empty ['e'], []⟩)

/-- Groups, one of which is replaced by nothing. A rule that drops the empty text sees as much of
them as their keys show; one that fills it takes a key more. -/
theorem apply_andThen_sample :
    ∃ r dropping filling : CompiledRule,
      (dropping.apply [] 0).value = [] ∧
      ((r.apply (Text.of "t<a> t<b>") 0).value.flatMap fun key => (dropping.apply key 0).value) =
        [['b']] ∧
      ((r.andThen dropping).apply (Text.of "t<a> t<b>") 0).value = [['b']] ∧
      ((r.apply (Text.of "t<a> t<b>") 0).value.flatMap fun key => (filling.apply key 0).value) =
        [['b']] ∧
      ((r.andThen filling).apply (Text.of "t<a> t<b>") 0).value = [['e'], ['b']] ∧
      r.handOn (Text.of "t<a> t<b>") (fun key => (filling.apply key 0).value) [['e']] =
        [['e'], ['b']] := by
  have hvalues : (groupRules?.map fun (r, dropping, filling) =>
      [(dropping.apply [] 0).value, (filling.apply [] 0).value,
        (r.apply (Text.of "t<a> t<b>") 0).value.flatMap fun key => (dropping.apply key 0).value,
        (r.apply (Text.of "t<a> t<b>") 0).value.flatMap fun key => (filling.apply key 0).value,
        ((r.andThen filling).apply (Text.of "t<a> t<b>") 0).value]) =
      some [[], [['e']], [['b']], [['b']], [['e'], ['b']]] := by decide +kernel
  obtain ⟨⟨r, dropping, filling⟩, -, hvalues⟩ := Option.map_eq_some_iff.mp hvalues
  simp only [List.cons.injEq, and_true] at hvalues
  obtain ⟨hnone, hextra, hdropped, hfilled, hattached⟩ := hvalues
  have hdropping := apply_andThen r dropping (Text.of "t<a> t<b>") 0 0
  have hfilling := apply_andThen r filling (Text.of "t<a> t<b>") 0 0
  refine ⟨r, dropping, filling, hnone, hdropped, (hdropping.1 hnone).trans hdropped, hfilled,
    hattached, ?_⟩
  rw [← hextra, ← hfilling.2.2.2]
  exact hattached

end CompiledRule

end WordingAudit
