import WordingAudit.Text.Quoted

/-!
What an audit reports about its own progress. An event says what happened; its level, message and
fields follow from that.
-/

namespace WordingAudit

/-- How wordings are laid out in a document: nested objects, or one flat object. -/
inductive ResourceFormat
  | nested
  | flat
deriving DecidableEq, Repr

/-- Why an entry of a project tree is left out. -/
inductive SkipReason
  | plainName
  | dottedName
  | dottedDirectory
  | otherExtension (extension : Text)
deriving DecidableEq, Repr

/-- Something that happened during an audit. `depth` counts the steps of a rule from the outermost,
in a word that starts over after its greatest value. -/
inductive Event
  | matched (depth : UInt64) (value : Text)
  | noGroup (depth : UInt64) (pattern : Text) (index : Nat)
  | replaced (depth : UInt64) (before after : Text)
  | ignored (depth : UInt64) (value : Text)
  | skipped (path : Text) (reason : SkipReason)
  | file (path : Text)
  | scanFinished (scanned skipped keys : Nat)
  | reading (path : Text) (format : ResourceFormat)
  | fetching (url : Text)
  | notAnObject (source : Text)
  | wildcardMatched (localKey serverKey : Text)
deriving DecidableEq, Repr

/-- How much an event matters. -/
inductive Level
  | trace
  | debug
  | warn
deriving DecidableEq, Repr

/-- The value of a field: a number, text to be quoted, or text as it is. -/
inductive FieldValue
  | number (n : Nat)
  | quoted (t : Text)
  | plain (t : Text)
deriving DecidableEq, Repr

namespace Level

def name : Level → Text
  | trace => Text.of "TRACE"
  | debug => Text.of "DEBUG"
  | warn => Text.of "WARN"

end Level

namespace ResourceFormat

def name : ResourceFormat → Text
  | nested => Text.of "NestedJson"
  | flat => Text.of "Arb"

end ResourceFormat

namespace SkipReason

def message : SkipReason → Text
  | plainName => Text.of "skipping: no extension and not a directory"
  | dottedName => Text.of "skipping: name has more than one extension"
  | dottedDirectory => Text.of "skipping: directory name has an extension"
  | otherExtension _ => Text.of "skipping: extension not selected"

end SkipReason

namespace Event

def level : Event → Level
  | matched .. => .trace
  | noGroup .. => .trace
  | replaced .. => .trace
  | ignored .. => .trace
  | wildcardMatched .. => .trace
  | notAnObject _ => .warn
  | _ => .debug

def message : Event → Text
  | matched .. => Text.of "match"
  | noGroup _ _ index => Text.of "match without capture group " ++ Text.ofNat index
  | replaced .. => Text.of "replace"
  | ignored .. => Text.of "ignored"
  | skipped _ reason => reason.message
  | file _ => Text.of "file"
  | scanFinished .. => Text.of "project scan finished"
  | reading .. => Text.of "reading wordings"
  | fetching _ => Text.of "fetching wordings"
  | notAnObject _ => Text.of "ARB document is not an object, no keys read"
  | wildcardMatched .. => Text.of "wildcard match"

/-- The fields by name, in the order in which they are written. -/
def fields : Event → List (String × FieldValue)
  | matched depth value => [("depth", .number depth.toNat), ("value", .quoted value)]
  | noGroup depth pattern _ => [("depth", .number depth.toNat), ("pattern", .quoted pattern)]
  | replaced depth before after =>
    [("depth", .number depth.toNat), ("from", .quoted before), ("to", .plain after)]
  | ignored depth value => [("depth", .number depth.toNat), ("value", .quoted value)]
  | skipped path (.otherExtension extension) =>
    [("path", .plain path), ("extension", .quoted extension)]
  | skipped path _ => [("path", .plain path)]
  | file path => [("path", .plain path)]
  | scanFinished scanned left keys =>
    [("files_scanned", .number scanned), ("files_skipped", .number left),
      ("keys", .number keys)]
  | reading path format => [("path", .plain path), ("format", .plain format.name)]
  | fetching url => [("url", .quoted url)]
  | notAnObject source => [("source", .quoted source)]
  | wildcardMatched localKey serverKey =>
    [("local", .quoted localKey), ("server", .quoted serverKey)]

end Event

end WordingAudit
