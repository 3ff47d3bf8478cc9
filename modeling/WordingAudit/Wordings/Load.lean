import WordingAudit.Rule.Compiled
import WordingAudit.KeySet
import WordingAudit.Url.Basic
import WordingAudit.Wordings.Entries
import WordingAudit.Wordings.Locator
import WordingAudit.World

/-!
Loading the entries of the wordings from a file or from the web, and the keys they define.
-/

namespace WordingAudit.Wordings

/-- The value of a JSON text that came from `source`. -/
def readJson (source content : Text) : Except AuditError Json :=
  (Json.read? content).elim (.error (.json source .syntaxError)) .ok

/-- The line that asks a server for an address. -/
def requestLine (u : Url) : Text := Text.of "GET " ++ u.target ++ Text.of " HTTP/1.1"

/-- What a reply holds. The status counts before the body. -/
def replyText (r : Reply) : Except FetchProblem Text :=
  if r.status < 200 ∨ 300 ≤ r.status then .error (.status r.status)
  else if 0 < r.missing then .error .cutShort
  else .ok (Utf8.decodeLossy r.body)

/-- What the server sends for an address. -/
def fetch (w : World) (url : Text) : Audited Text := do
  Audited.report (.fetching url)
  match Url.ofText? url with
  | none => throw (.fetch url .badUrl)
  | some u =>
    match w.server with
    | none => throw (.fetch url (.notSent u.text))
    | some reply => do
      Audited.act (.request (requestLine u))
      Audited.ofResult ((replyText reply).mapError fun e => .fetch url e)

/-- The entries of the wordings at a place. -/
def load (w : World) (place : Locator) : Audited Entries :=
  match place with
  | .url url => do
    let content ← fetch w url
    let value ← Audited.ofResult (readJson url content)
    Audited.ofTraced (entries .nested url value)
  | .file path format => do
    Audited.report (.reading path format)
    let content ← w.readText path
    let value ← Audited.ofResult (readJson path content)
    Audited.ofTraced (entries format path value)

/-- All keys that the wordings define, after every substitution. -/
def keys (w : World) (source : Option Text) (substitutions : List CompiledSubstitution) :
    Audited KeySet :=
  match source with
  | none => throw (.settings .noWordingsSource)
  | some source => do
    let place ← Audited.ofResult (Locator.ofSource source)
    let found ← load w place
    return KeySet.ofList (CompiledSubstitution.applyAll substitutions (Entries.keys found))

end WordingAudit.Wordings
