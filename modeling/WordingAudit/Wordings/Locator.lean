import WordingAudit.Error
import WordingAudit.Event

/-!
Where wordings come from: a URL, or a file whose name says how it is laid out.
-/

namespace WordingAudit

/-- A place to read wordings from. -/
inductive Locator
  | url (url : Text)
  | file (path : Text) (format : ResourceFormat)
deriving DecidableEq, Repr

namespace Locator

def isUrl (source : Text) : Bool :=
  Text.startsWith source (Text.of "http://") || Text.startsWith source (Text.of "https://")

/-- The place that a setting names. -/
def ofSource (source : Text) : Except AuditError Locator :=
  if isUrl source then .ok (.url source)
  else if Text.endsWith source (Text.of ".arb") then .ok (.file source .flat)
  else if Text.endsWith source (Text.of ".json") then .ok (.file source .nested)
  else .error (.unsupportedFormat source)

end Locator

end WordingAudit
