import WordingAudit.KeySet
import WordingAudit.Rule.Compiled
import WordingAudit.Trace

/-!
Comparing the keys of a project with the keys of its wordings. A project key may hold tokens that
stand for any run of characters, and every other part of it stands for itself.
-/

namespace WordingAudit

/-- The list that the result of a comparison is drawn from. -/
inductive Side
  | first
  | second
deriving DecidableEq, Repr

/-- When a key of the first list and a key of the second count as the same: `wildcard` finds the
tokens in keys of the first, and with `acceptPart` a key is also the same as one it is part of. -/
structure Comparison where
  wildcard : Option Pattern
  acceptPart : Bool

/-- A key of the first list, with the pattern it stands for if it holds tokens. -/
structure LocalKey where
  key : Text
  pattern : Option Pattern

namespace Comparison

/-- The side that is asked for when none is named. -/
def defaultSide : Side := .second

def ofSettings (wildcard : Option Text) (acceptPart : Bool) : Except AuditError Comparison := do
  let p ← wildcard.mapM compilePattern
  return ⟨p, acceptPart⟩

/-- The parts of a text around the given spans, from an offset on. -/
def partsAround (t : Text) (start : Nat) : List Pattern.Span → List Text
  | [] => [t.drop start]
  | s :: rest => Text.slice t start s.start :: partsAround t s.stop rest

/-- The pattern whose occurrences are whole texts, made of these parts with anything between. -/
def anchored (parts : List Text) : Text :=
  Text.of "(?s)^" ++ Text.join (Text.of ".*") (parts.map Pattern.escape) ++ ['$']

/-- The spans of the tokens in a key. -/
def tokens (c : Comparison) (key : Text) : List Pattern.Span :=
  match c.wildcard with
  | none => []
  | some p => ((p.occurrences key).map (·.span)).filter fun s => s.start < s.stop

/-- The pattern that a key with tokens stands for. -/
def localPattern? (c : Comparison) (key : Text) : Option Pattern :=
  match c.tokens key with
  | [] => none
  | spans => Pattern.ofText? (anchored (partsAround key 0 spans))

def localKey (c : Comparison) (key : Text) : LocalKey := ⟨key, c.localPattern? key⟩

/-- Whether the pattern of a key, if it has one, covers another key. -/
def LocalKey.covers (l : LocalKey) (server : Text) : Bool :=
  match l.pattern with
  | none => false
  | some p => p.occursIn server

/-- Whether a key of the first list counts as the same as one of the second. -/
def isEquivalent (c : Comparison) (l : LocalKey) (server : Text) : Traced Bool :=
  if l.key = server then pure true
  else if LocalKey.covers l server then do
    Traced.report (.wildcardMatched l.key server)
    return true
  else pure (c.acceptPart && Text.contains server l.key)

/-- The keys of one side for which an equal on the other side exists, or does not. -/
def select (c : Comparison) (first second : List Text) (side : Side) (keep : Bool) :
    Traced KeySet := do
  let locals := first.map c.localKey
  match side with
  | .first =>
    let chosen ← Traced.filter (fun l => do
      let found ← Traced.any (fun server => c.isEquivalent l server) second
      return found == keep) locals
    return KeySet.ofList (chosen.map (·.key))
  | .second =>
    let chosen ← Traced.filter (fun server => do
      let found ← Traced.any (fun l => c.isEquivalent l server) locals
      return found == keep) second
    return KeySet.ofList chosen

/-- The keys of a side without an equal on the other. -/
def diff (c : Comparison) (first second : List Text) (side : Side) : Traced KeySet :=
  c.select first second side false

/-- The keys of a side with an equal on the other. -/
def intersect (c : Comparison) (first second : List Text) (side : Side) : Traced KeySet :=
  c.select first second side true

end Comparison

/-- The keys of a side without an equal on the other, with an optional token. -/
def diff (first second : List Text) (side : Side) (wildcard : Option Text) :
    Except AuditError (Traced KeySet) :=
  (Comparison.ofSettings wildcard false).map fun c => c.diff first second side

end WordingAudit
