import WordingAudit.Json.Decode
import WordingAudit.Rule.Basic

/-!
Rules and substitutions in JSON. A rule is an object with a type, or an array that begins with it;
the rule that goes on with its results stands inside it.
-/

namespace WordingAudit

namespace Substitution

/-- A substitution of which some fields have been read. -/
structure Draft where
  pattern : Option Text := none
  replacement : Option Text := none

def record : Record Draft Substitution where
  title := Text.of "struct RewriteRule"
  fields := [
    ⟨Text.of "pattern", [Text.of "pattern", Text.of "regex"], fun _ d draft => do
      return { draft with pattern := some (← d.text (Text.of "a string")) }⟩,
    ⟨Text.of "replacement", [Text.of "replacement", Text.of "by"], fun _ d draft => do
      return { draft with replacement := ← d.optional (Document.text (Text.of "a string")) }⟩]
  initial := {}
  finish draft := draft.pattern.map fun p => ⟨p, draft.replacement⟩

def decodeList (nesting : Nat) (d : Document) : Decoded (List Substitution) :=
  d.list record.decode nesting

end Substitution

/-- What kind of step a rule begins with. -/
inductive StepKind
  | extract
  | replace
  | ignore
deriving DecidableEq, Repr

namespace StepKind

def name : StepKind → Text
  | extract => Text.of "match"
  | replace => Text.of "replace"
  | ignore => Text.of "ignore"

/-- The name that errors have for rules of this kind. -/
def title : StepKind → Text
  | extract => Text.of "struct variant ExtractionRule::Match"
  | replace => Text.of "struct variant ExtractionRule::Replace"
  | ignore => Text.of "struct variant ExtractionRule::Ignore"

def all : List StepKind := [extract, replace, ignore]

def wanted : Text := Text.of "variant identifier"

/-- The kind that a rule's type names. Inside another rule its number does as well. -/
def decode (inner : Bool) (d : Document) : Decoded StepKind :=
  match d with
  | .str s =>
    match all.find? (·.name = s) with
    | some kind => .ok kind
    | none => .error (.unknownVariant s (all.map name))
  | .int n =>
    if inner && 0 ≤ n then
      match all[n.toNat]? with
      | some kind => .ok kind
      | none => .error (.invalidValue d.describe (Text.of "variant index 0 <= i < 3"))
    else d.mistyped wanted
  | d => d.mistyped wanted

end StepKind

namespace Rule

/-- A rule of which some fields have been read. -/
structure Draft where
  pattern : Option Text := none
  group : Option Nat := none
  replacement : Option Text := none
  next : Option Rule := none

/-- The fields of a kind of rule, when `readNext` reads the rule that goes on. -/
def fields (readNext : Document → Decoded Rule) (kind : StepKind) : List (Field Draft) :=
  let pattern : Field Draft :=
    ⟨Text.of "pattern", [Text.of "pattern", Text.of "regex"], fun _ d draft => do
      return { draft with pattern := some (← d.text (Text.of "a string")) }⟩
  let group : Field Draft :=
    ⟨Text.of "captureIndex", [Text.of "captureIndex", Text.of "position"], fun _ d draft => do
      return { draft with group := ← d.optional (Document.natural (Text.of "usize")) }⟩
  let replacement : Field Draft :=
    ⟨Text.of "replacement", [Text.of "replacement", Text.of "by"], fun _ d draft => do
      return { draft with replacement := ← d.optional (Document.text (Text.of "a string")) }⟩
  let next : Field Draft :=
    ⟨Text.of "next", [Text.of "next"], fun _ d draft => do
      return { draft with next := ← d.optional readNext }⟩
  match kind with
  | .extract => [pattern, group, next]
  | .replace => [pattern, replacement, next]
  | .ignore => [pattern, next]

/-- The rule that a draft amounts to. -/
def ofDraft (kind : StepKind) (draft : Draft) : Option Rule :=
  draft.pattern.map fun p =>
    let further := (draft.next.map steps).getD []
    match kind with
    | .extract => ⟨.extract p draft.group, further⟩
    | .replace => ⟨.replace p draft.replacement, further⟩
    | .ignore => ⟨.ignore p, further⟩

/-- How a number of items is named. -/
def itemCount (n : Nat) : Text :=
  Text.ofNat n ++ Text.of (if n = 1 then " element in sequence" else " elements in sequence")

def record (readNext : Document → Decoded Rule) (kind : StepKind) : Record Draft Rule where
  title := kind.title
  fields := fields readNext kind
  initial := {}
  finish := ofDraft kind
  surplus count := .invalidLength count (itemCount (fields readNext kind).length)

def typeKey : Text := Text.of "type"

/-- The type of a rule and its other members. Every other member must be free of mistakes. -/
def splitMembers (inner : Bool) (nesting : Nat) (kind : Option StepKind) :
    List (Option Text × Document) → Decoded (Option StepKind × List (Option Text × Document))
  | [] => .ok (kind, [])
  | (none, _) :: _ => .error .malformed
  | (some key, d) :: rest =>
    if key = typeKey then
      if kind.isSome then .error (.duplicateField typeKey)
      else do
        let found ← StepKind.decode inner d
        splitMembers inner nesting (some found) rest
    else if (d.value? nesting).isNone then .error .malformed
    else do
      let (kind, others) ← splitMembers inner nesting kind rest
      return (kind, (some key, d) :: others)

/-- The rule that a document stands for; `inner` says that it goes on with another rule's
results. -/
def decodeWithin (inner : Bool) (nesting : Nat) (d : Document) : Decoded Rule :=
  match nesting, d with
  | 0, .arr _ _ => .error .malformed
  | 0, .obj _ _ => .error .malformed
  | nesting + 1, .obj members complete => do
    let (kind, others) ← splitMembers inner nesting none members
    if !complete then .error .malformed
    else
      match kind with
      | none => .error (.missingField typeKey)
      | some kind =>
        (record (fun d => decodeWithin true nesting d) kind).ofMembers nesting others true
  | nesting + 1, .arr items complete =>
    match items with
    | [] => .error (if complete then .missingField typeKey else .malformed)
    | first :: rest => do
      let kind ← StepKind.decode inner first
      if !complete || rest.any fun d => (d.value? nesting).isNone then .error .malformed
      else (record (fun d => decodeWithin true nesting d) kind).ofItems nesting rest true
  | _, d => d.mistyped (Text.of "internally tagged enum ExtractionRule")

def decode (nesting : Nat) (d : Document) : Decoded Rule := decodeWithin false nesting d

def decodeList (nesting : Nat) (d : Document) : Decoded (List Rule) := d.list decode nesting

end Rule

end WordingAudit
