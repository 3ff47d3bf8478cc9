import WordingAudit.Audit.Run
import WordingAudit.CommandLine.Help
import WordingAudit.Log

/-!
The command as a whole: what it prints and how it exits.
-/

namespace WordingAudit.CommandLine

/-- How the command ends. -/
inductive ExitStatus
  | success
  | usage
  | error
deriving DecidableEq, Repr

def ExitStatus.code : ExitStatus → Nat
  | success => 0
  | usage => 1
  | error => 2

/-- What the command prints, and how it ends. -/
structure Output where
  status : ExitStatus
  stdout : Text
  stderr : Text
deriving DecidableEq, Repr

/-- The outcome of arguments that could be read: how it ends and what is printed for it. -/
def execute (w : World) (color : Bool) (a : Arguments) : Auditing (ExitStatus × Text) :=
  match a.config with
  | none => pure (.usage, unlines helpLines)
  | some path => do
    let report ← Audit.run w path a.mode
    return (.success, report.text color)

/-- What an error is reported as; the cause of a refused pattern is announced and left out. -/
def errorLine (e : RunError) : Text :=
  let cause := if (e.cause?.bind AuditError.pattern?).isSome then Text.of ": regex parse error:"
    else []
  Text.of "Error: " ++ e.message ++ cause

/-- Runs the command with the arguments after its name. -/
def run (w : World) (color : Bool) (words : List Text) : Output :=
  match Arguments.ofWords words with
  | .error .help => ⟨.success, unlines helpLines, []⟩
  | .error .version => ⟨.success, unlines [versionLine], []⟩
  | .error (.problem p) => ⟨.error, [], unlines (problemLines p)⟩
  | .ok a =>
    let outcome := ExceptT.run (execute w color a)
    let log := Log.lines a.verbose outcome.events
    match outcome.value with
    | .ok (status, text) => ⟨status, text, unlines log⟩
    | .error e => ⟨.error, [], unlines (log ++ [errorLine e])⟩

end WordingAudit.CommandLine
