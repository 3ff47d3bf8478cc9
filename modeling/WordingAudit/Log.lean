import WordingAudit.Event

/-!
The log: one line for each event that matters enough.
-/

namespace WordingAudit

/-- How much a level matters. -/
def Level.rank : Level → Nat
  | trace => 0
  | debug => 1
  | warn => 2

namespace Log

/-- The least level that is written. -/
def threshold (verbose : Bool) : Level := if verbose then .trace else .warn

/-- The setting that asks for a threshold. -/
def filterText (verbose : Bool) : Text :=
  Text.of "clean_wording=" ++ (threshold verbose).name.map Char.toLower

def isWritten (verbose : Bool) (e : Event) : Bool := (threshold verbose).rank ≤ e.level.rank

def valueText : FieldValue → Text
  | .number n => Text.ofNat n
  | .quoted t => Quoted.encode t
  | .plain t => t

/-- A level at the right end of five columns. -/
def levelText (level : Level) : Text :=
  List.replicate (5 - level.name.length) ' ' ++ level.name

/-- An event with its level, message and fields. -/
def line (e : Event) : Text :=
  levelText e.level ++ [' '] ++ e.message ++
    e.fields.flatMap fun f => [' '] ++ Text.of f.1 ++ ['='] ++ valueText f.2

/-- The lines for the events that are written. -/
def lines (verbose : Bool) (events : List Event) : List Text :=
  (events.filter (isWritten verbose)).map line

end Log

end WordingAudit
