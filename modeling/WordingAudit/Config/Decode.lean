import WordingAudit.Config.Basic
import WordingAudit.Rule.Decode

/-!
Settings in JSON.
-/

namespace WordingAudit

/-- A list of texts. -/
def decodeTexts (nesting : Nat) (d : Document) : Decoded (List Text) :=
  d.list (fun _ item => item.text (Text.of "a string")) nesting

namespace LegacyMatch

/-- An older extraction of which some fields have been read. -/
structure Draft where
  pattern : Option Text := none
  group : Option Nat := none

def record : Record Draft LegacyMatch where
  title := Text.of "struct LegacyMatch"
  fields := [
    ⟨Text.of "regex", [Text.of "regex"], fun _ d draft => do
      return { draft with pattern := some (← d.text (Text.of "a string")) }⟩,
    ⟨Text.of "position", [Text.of "position"], fun _ d draft => do
      return { draft with group := ← d.optional (Document.natural (Text.of "usize")) }⟩]
  initial := {}
  finish draft := draft.pattern.map fun p => ⟨p, draft.group⟩

def decodeList (nesting : Nat) (d : Document) : Decoded (List LegacyMatch) :=
  d.list record.decode nesting

end LegacyMatch

namespace ProjectSettings

def record : Record ProjectSettings ProjectSettings where
  title := Text.of "struct ProjectSourceParser"
  fields := [
    ⟨Text.of "extensions", [Text.of "extensions"], fun nesting d s => do
      return { s with extensions := ← d.optional (decodeTexts nesting) }⟩,
    ⟨Text.of "rules", [Text.of "rules"], fun nesting d s => do
      return { s with rules := ← Rule.decodeList nesting d }⟩,
    ⟨Text.of "matches", [Text.of "matches"], fun nesting d s => do
      return { s with legacyMatches := ← LegacyMatch.decodeList nesting d }⟩,
    ⟨Text.of "replaces", [Text.of "replaces"], fun nesting d s => do
      return { s with replaces := ← Substitution.decodeList nesting d }⟩]
  initial := {}
  finish := some

end ProjectSettings

namespace WordingsSettings

def record : Record WordingsSettings WordingsSettings where
  title := Text.of "struct WordingsSourceParser"
  fields := [
    ⟨Text.of "replaces", [Text.of "replaces"], fun nesting d s => do
      return { s with replaces := ← Substitution.decodeList nesting d }⟩]
  initial := {}
  finish := some

end WordingsSettings

namespace Config

def record : Record Config Config where
  title := Text.of "struct Config"
  fields := [
    ⟨Text.of "projectSourcePath", [Text.of "projectSourcePath"], fun _ d c => do
      return { c with projectPath := ← d.optional (Document.text (Text.of "path string")) }⟩,
    ⟨Text.of "projectSourceParser", [Text.of "projectSourceParser"], fun nesting d c => do
      return { c with project := ← d.optional (ProjectSettings.record.decode nesting) }⟩,
    ⟨Text.of "wordingsSource", [Text.of "wordingsSource"], fun _ d c => do
      return { c with wordingsSource := ← d.optional (Document.text (Text.of "a string")) }⟩,
    ⟨Text.of "wordingsSourceParser", [Text.of "wordingsSourceParser"], fun nesting d c => do
      return { c with wordings := ← WordingsSettings.record.decode nesting d }⟩,
    ⟨Text.of "wildcard", [Text.of "wildcard"], fun _ d c => do
      return { c with wildcard := ← d.optional (Document.text (Text.of "a string")) }⟩,
    ⟨Text.of "include", [Text.of "include"], fun _ d c => do
      return { c with acceptPart := ← d.boolean }⟩,
    ⟨Text.of "fetchTimeoutSecs", [Text.of "fetchTimeoutSecs"], fun _ d c => do
      return { c with fetchTimeout := ← d.natural (Text.of "u64") }⟩]
  initial := {}
  finish := some

/-- The settings that a text holds. -/
def read (t : Text) : Except JsonProblem Config :=
  (decodeText record.decode t).mapError JsonProblem.ofDecode

end Config

end WordingAudit
