import Mathlib.Data.List.Chain
import WordingAudit.Proofs.Chain
import WordingAudit.Proofs.Compilation

/-!
The depth at which a rule is applied. It is told by the events and by nothing else: the keys are the
same at every depth, and an event further in differs by its depth alone. Each step calls the next
one for the texts it yields, so no more calls wait for each other than the rule has steps. The depth
of an event is the depth of the rule and the number of calls that wait while it is reported, as long
as the counter has room for them; a rule that starts at the last depth goes on at depth 0.
-/

namespace WordingAudit

/-- The value with a number made greater. -/
def FieldValue.raise (more : Nat) : FieldValue → FieldValue
  | number n => number (more + n)
  | value => value

namespace Event

/-- The event as it is reported that many steps further in. -/
def deepen (more : UInt64) : Event → Event
  | matched depth value => matched (more + depth) value
  | noGroup depth pattern index => noGroup (more + depth) pattern index
  | replaced depth before after => replaced (more + depth) before after
  | ignored depth value => ignored (more + depth) value
  | e => e

/-- The event has a field for the depth, with this number and no other. -/
def StandsAt (e : Event) (depth : Nat) : Prop := ∀ n, ("depth", .number n) ∈ e.fields ↔ n = depth

theorem level_deepen (more : UInt64) (e : Event) : (e.deepen more).level = e.level := by
  cases e <;> rfl

theorem message_deepen (more : UInt64) (e : Event) : (e.deepen more).message = e.message := by
  cases e <;> rfl

/-- While the counter has room, nothing but the depth is another one further in. -/
theorem fields_deepen {more : UInt64} {e : Event} {depth : Nat} (h : e.StandsAt depth)
    (hroom : more.toNat + depth < UInt64.size) :
    (e.deepen more).fields =
      e.fields.map fun field =>
        (field.1, if field.1 = "depth" then field.2.raise more.toNat else field.2) := by
  have hsum {n : UInt64} (hn : ("depth", .number n.toNat) ∈ e.fields) :
      (more + n).toNat = more.toNat + n.toNat := by
    rw [UInt64.toNat_add, Nat.mod_eq_of_lt ((h _).mp hn ▸ hroom)]
  cases e with
  | matched n _ | noGroup n _ _ | replaced n _ _ | ignored n _ =>
      simp [deepen, fields, FieldValue.raise, hsum List.mem_cons_self]
  | skipped path reason => cases reason <;> rfl
  | _ => rfl

end Event

namespace CompiledStep

variable {s : CompiledStep} {depth : UInt64} {t : Text} {e : Event}

theorem reports_add (s : CompiledStep) (more depth : UInt64) (t : Text) :
    s.reports (more + depth) t =
      (s.reports depth t).map fun report => (report.1.map (Event.deepen more), report.2) := by
  cases s with
  | extract p group =>
      rw [reports, reports, List.map_map]
      refine List.map_congr_left fun m _ => ?_
      rw [Function.comp_apply]
      cases groupOf? group t m <;> rfl
  | replace p template => rfl
  | ignore p =>
      rw [reports, reports]
      split <;> rfl

theorem standsAt_of_reports {value : Option Text} (h : (some e, value) ∈ s.reports depth t) :
    e.StandsAt depth.toNat := by
  cases s with
  | extract p group =>
      obtain ⟨m, -, hm⟩ := List.mem_map.mp h
      split at hm <;> cases hm <;> intro n <;> simp [Event.fields]
  | replace p template =>
      rw [reports, List.mem_singleton] at h
      cases h
      intro n
      simp [Event.fields]
  | ignore p =>
      rw [reports] at h
      split at h <;> rw [List.mem_singleton] at h <;> cases h
      intro n
      simp [Event.fields]

/-- Each text that a step yields comes to the next step right after the event it is told by. -/
theorem events_chain_cons (depth : UInt64) (s : CompiledStep) (rest : List CompiledStep)
    (t : Text) :
    (chain depth (s :: rest) t).events = (s.reports depth t).flatMap fun report =>
      report.1.toList ++ report.2.elim [] fun v => (chain (depth + 1) rest v).events := by
  rw [chain, Traced.events_flatMap]
  refine List.flatMap_congr fun report _ => ?_
  obtain ⟨_ | e, _ | v⟩ := report <;> rfl

theorem events_chain_add (more depth : UInt64) (steps : List CompiledStep) (t : Text) :
    (chain (more + depth) steps t).events =
      (chain depth steps t).events.map (Event.deepen more) := by
  induction steps generalizing depth t with
  | nil => rfl
  | cons s rest ih =>
      rw [events_chain_cons, events_chain_cons, reports_add, List.flatMap_map, List.map_flatMap]
      refine List.flatMap_congr fun report _ => ?_
      obtain ⟨event, value⟩ := report
      rw [List.map_append, Option.toList_map]
      cases value with
      | none => rfl
      | some v =>
          have hinner := ih (depth + 1) v
          rw [← UInt64.add_assoc] at hinner
          exact congrArg _ hinner

theorem mem_events_chain_cons {rest : List CompiledStep} :
    e ∈ (chain depth (s :: rest) t).events ↔ e ∈ (s.reports depth t).filterMap (·.1) ∨
      ∃ v ∈ s.results t, e ∈ (chain (depth + 1) rest v).events := by
  rw [events_chain_cons, ← filterMap_reports s depth]
  simp only [List.mem_flatMap, List.mem_append, List.mem_filterMap, Option.mem_toList]
  constructor
  · rintro ⟨report, hreport, he | he⟩
    · exact .inl ⟨report, hreport, he⟩
    · cases hvalue : report.2 with
      | none =>
          rw [hvalue] at he
          cases he
      | some v =>
          rw [hvalue] at he
          exact .inr ⟨v, ⟨report, hreport, hvalue⟩, he⟩
  · rintro (⟨report, hreport, he⟩ | ⟨v, ⟨report, hreport, hvalue⟩, he⟩)
    · exact ⟨report, hreport, .inl he⟩
    · refine ⟨report, hreport, .inr ?_⟩
      rw [hvalue]
      exact he

end CompiledStep

/-- A step of a rule at work on a text, with the steps that go on with what it yields. -/
structure Call where
  depth : UInt64
  step : CompiledStep
  further : List CompiledStep
  text : Text

namespace Call

variable {c : Call} {calls : List Call} {e : Event}

def run (c : Call) : Traced (List Text) :=
  CompiledStep.chain c.depth (c.step :: c.further) c.text

/-- The events that the step itself reports. -/
def own (c : Call) : List Event := (c.step.reports c.depth c.text).filterMap (·.1)

/-- The calls that are made before this one ends: of the next step, for each text that comes to
it. -/
def inner (c : Call) : List Call :=
  match c.further with
  | [] => []
  | s :: rest => (c.step.results c.text).map fun t => ⟨c.depth + 1, s, rest, t⟩

/-- Calls that wait for each other, the outermost first. -/
def Nested (calls : List Call) : Prop := calls.IsChain fun outer call => call ∈ outer.inner

theorem mem_inner {i : Call} : i ∈ c.inner ↔ ∃ s rest v, c.further = s :: rest ∧
    v ∈ c.step.results c.text ∧ i = ⟨c.depth + 1, s, rest, v⟩ := by
  rw [inner]
  cases c.further with
  | nil => simp
  | cons s rest => simp [eq_comm]

/-- What a call yields is what the calls that it makes yield, one after the other. -/
theorem value_run (h : c.further ≠ []) : c.run.value = c.inner.flatMap fun i => i.run.value := by
  obtain ⟨s, rest, hfurther⟩ := List.exists_cons_of_ne_nil h
  rw [run, CompiledStep.chain_value, CompiledStep.keys, inner, hfurther, List.flatMap_map]
  exact List.flatMap_congr fun v _ => (CompiledStep.chain_value _ _ _).symm

/-- Each of nested calls has one step less to go on with than the one around it. -/
theorem Nested.further_innermost (h : Nested (c :: calls)) :
    (calls.getLastD c).further.length + calls.length = c.further.length := by
  induction calls generalizing c with
  | nil => rfl
  | cons i calls ih =>
      obtain ⟨hi, hcalls⟩ := List.isChain_cons_cons.mp h
      obtain ⟨s, rest, v, hfurther, -, rfl⟩ := mem_inner.mp hi
      rw [List.getLastD_cons, hfurther, List.length_cons, List.length_cons, ← ih hcalls,
        Nat.add_assoc]

/-- The innermost of nested calls stands as much further in as there are calls around it. -/
theorem Nested.depth_innermost (h : Nested (c :: calls)) :
    (calls.getLastD c).depth = c.depth + .ofNat calls.length := by
  induction calls generalizing c with
  | nil => exact (UInt64.add_zero c.depth).symm
  | cons i calls ih =>
      obtain ⟨hi, hcalls⟩ := List.isChain_cons_cons.mp h
      obtain ⟨s, rest, v, -, -, rfl⟩ := mem_inner.mp hi
      rw [List.getLastD_cons, ih hcalls, List.length_cons, UInt64.ofNat_add, UInt64.add_assoc]
      exact congrArg _ (UInt64.add_comm _ _)

/-- An event is reported by the step of some call, inside of all the calls that wait for it. -/
theorem exists_nested_of_mem_events (h : e ∈ c.run.events) :
    ∃ calls, Nested (c :: calls) ∧ e ∈ (calls.getLastD c).own := by
  obtain ⟨depth, s, further, t⟩ := c
  induction further generalizing depth s t with
  | nil =>
      rcases CompiledStep.mem_events_chain_cons.mp h with hown | ⟨v, -, hnone⟩
      · exact ⟨[], List.isChain_singleton _, hown⟩
      · cases hnone
  | cons next rest ih =>
      rcases CompiledStep.mem_events_chain_cons.mp h with hown | ⟨v, hv, hinner⟩
      · exact ⟨[], List.isChain_singleton _, hown⟩
      · obtain ⟨calls, hnested, hown⟩ := ih (depth + 1) next v hinner
        refine ⟨⟨depth + 1, next, rest, v⟩ :: calls, ?_, ?_⟩
        · exact List.isChain_cons_cons.mpr ⟨mem_inner.mpr ⟨next, rest, v, rfl, hv, rfl⟩, hnested⟩
        · rw [List.getLastD_cons]
          exact hown

theorem standsAt_of_mem_own (h : e ∈ c.own) : e.StandsAt c.depth.toNat := by
  obtain ⟨⟨event, value⟩, hreport, rfl⟩ := List.mem_filterMap.mp h
  exact CompiledStep.standsAt_of_reports hreport

end Call

namespace CompiledRule

/-- The call that applies a rule to a text. -/
def call (c : CompiledRule) (t : Text) (depth : UInt64) : Call := ⟨depth, c.first, c.further, t⟩

theorem run_call (c : CompiledRule) (t : Text) (depth : UInt64) :
    (c.call t depth).run = c.apply t depth := rfl

theorem length_steps_of_compile {r : Rule} {c : CompiledRule} (h : r.compile = .ok c) :
    c.further.length + 1 = r.steps.length ∧ r.steps.length ≤ Rule.maxSteps :=
  ⟨(Rule.compiled_of_compile h).length_eq.symm, (Rule.exists_compile_eq_ok.mp ⟨c, h⟩).2⟩

section Nested

variable {r : Rule} {c : CompiledRule} (h : r.compile = .ok c) (t : Text) (d : UInt64)
include h

/-- No more calls are nested than the rule has steps. -/
theorem length_nested_le {calls : List Call} (hcalls : Call.Nested (c.call t d :: calls)) :
    calls.length + 1 ≤ r.steps.length := by
  rw [← (length_steps_of_compile h).1]
  exact Nat.succ_le_succ ((Nat.le_add_left _ _).trans hcalls.further_innermost.le)

/-- While the counter has room, an event tells how many calls wait for the one that reports it. -/
theorem exists_standsAt {e : Event} (he : e ∈ (c.apply t d).events)
    (hroom : d.toNat + r.steps.length - 1 < UInt64.size) :
    ∃ calls, Call.Nested (c.call t d :: calls) ∧ e.StandsAt (d.toNat + calls.length) := by
  rw [← run_call] at he
  obtain ⟨calls, hcalls, hown⟩ := Call.exists_nested_of_mem_events he
  have hfew := length_nested_le h t d hcalls
  have hdepth : (calls.getLastD (c.call t d)).depth.toNat = d.toNat + calls.length := by
    rw [hcalls.depth_innermost, UInt64.toNat_add, UInt64.toNat_ofNat', Nat.add_mod_mod]
    exact Nat.mod_eq_of_lt (show d.toNat + calls.length < UInt64.size by omega)
  exact ⟨calls, hcalls, hdepth ▸ Call.standsAt_of_mem_own hown⟩

end Nested

/-- Groups that are not ignored, with a replacement in them. -/
def groupsReplaced : Rule :=
  ⟨.extract (Text.of "t<([^>]*)>") none, [.ignore ['x'], .replace ['a'] (some ['b'])]⟩

/-- Groups that are not ignored. -/
def groupsKept : Rule := ⟨.extract (Text.of "t<([^>]*)>") none, [.ignore ['x']]⟩

end CompiledRule

end WordingAudit
