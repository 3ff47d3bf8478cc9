import WordingAudit.Files.Tree
import WordingAudit.Trace

/-!
What an audit can see of the world outside: the files, and what the servers answer. No time passes
in it: a server answers at once or cannot be reached, and what it takes to ask one is always there.
-/

namespace WordingAudit

/-- What a server sends back. `missing` is how many octets it announces and then leaves out. -/
structure Reply where
  status : Nat
  body : List UInt8
  missing : Nat
deriving DecidableEq, Repr

/-- The files, and the answer to every request if there is a server that can be reached. -/
structure World where
  files : FileTree
  server : Option Reply

/-- A step of an audit: it may fail, and leaves a record of what it did either way. -/
abbrev Audited (α : Type) := ExceptT AuditError Traced α

namespace Audited

/-- Does one thing. -/
def act (a : Action) : Audited Unit := ExceptT.lift (Traced.act a)

def report (e : Event) : Audited Unit := act (.report e)

/-- A result that is known, or an error. -/
def ofResult {α : Type} (r : Except AuditError α) : Audited α := ExceptT.mk (pure r)

/-- A computation that cannot fail. -/
def ofTraced {α : Type} (x : Traced α) : Audited α := ExceptT.lift x

end Audited

namespace World

/-- Reads a file as octets. -/
def readFile (w : World) (path : Text) : Audited (List UInt8) := do
  Audited.act (.readFile path)
  Audited.ofResult ((w.files.read path).mapError fun e => .file path e)

/-- Reads a file as text. -/
def readText (w : World) (path : Text) : Audited Text := do
  Audited.act (.readFile path)
  Audited.ofResult ((w.files.readText path).mapError fun e => .file path e)

end World

end WordingAudit
