import WordingAudit.Event

/-!
Computations that record what they do: the events they report, and every contact with the world
outside, in order.
-/

namespace WordingAudit

/-- One thing that a computation did. -/
inductive Action
  | report (event : Event)
  | readFile (path : Text)
  | walkTree (path : Text)
  | request (line : Text)
deriving DecidableEq, Repr

/-- The event that an action reports, if it does. -/
def Action.event? : Action → Option Event
  | report e => some e
  | _ => none

/-- The request that an action sends, if it does. -/
def Action.request? : Action → Option Text
  | request line => some line
  | _ => none

/-- A value with the actions that led to it. -/
structure Traced (α : Type) where
  value : α
  actions : List Action

namespace Traced

instance : Monad Traced where
  pure a := ⟨a, []⟩
  bind x f := ⟨(f x.value).value, x.actions ++ (f x.value).actions⟩

/-- Does one thing. -/
def act (a : Action) : Traced Unit := ⟨(), [a]⟩

def report (e : Event) : Traced Unit := act (.report e)

def events {α : Type} (x : Traced α) : List Event := x.actions.filterMap Action.event?

def requests {α : Type} (x : Traced α) : List Text := x.actions.filterMap Action.request?

/-- The results of a computation for each element, one after the other. -/
def flatMap {α β : Type} (f : α → Traced (List β)) : List α → Traced (List β)
  | [] => pure []
  | a :: rest => do
    let here ← f a
    let there ← flatMap f rest
    return here ++ there

/-- Whether a test holds of an element; the first that passes ends the search. -/
def any {α : Type} (test : α → Traced Bool) : List α → Traced Bool
  | [] => pure false
  | a :: rest => do
    if ← test a then return true else any test rest

/-- The elements that pass a test. -/
def filter {α : Type} (test : α → Traced Bool) : List α → Traced (List α)
  | [] => pure []
  | a :: rest => do
    let keep ← test a
    let others ← filter test rest
    return if keep then a :: others else others

end Traced

end WordingAudit
