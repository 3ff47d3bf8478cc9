import WordingAudit.KeySet

/-!
What an audit reports: all keys of one side, or those that the other side lacks.
-/

namespace WordingAudit

/-- The keys that are asked for. -/
inductive Mode
  | allProject
  | allFile
  | orphanProject
  | orphanFile
deriving DecidableEq, Repr

/-- What the keys of a report are. -/
def Mode.label : Mode → Text
  | allProject => Text.of "project keys"
  | allFile => Text.of "file keys"
  | orphanProject => Text.of "project keys missing from file"
  | orphanFile => Text.of "file keys unused in project"

/-- The keys an audit has come to. -/
structure Report where
  mode : Mode
  keys : KeySet
deriving DecidableEq, Repr

namespace Report

/-- A text in a style of the terminal, by the number of the style. -/
def styled (number : Nat) (t : Text) : Text :=
  Text.of "\x1b[" ++ Text.ofNat number ++ ['m'] ++ t ++ Text.of "\x1b[0m"

/-- The last line: the number of keys, and what they are. -/
def totalLine (color : Bool) (r : Report) : Text :=
  let word := Text.of "TOTAL"
  let label := r.mode.label
  (if color then styled 1 word else word) ++ [' '] ++ Text.ofNat r.keys.size ++ Text.of "  " ++
    (if color then styled 2 label else label)

def lines (color : Bool) (r : Report) : List Text := r.keys.toList ++ [r.totalLine color]

/-- The report: a line for each key, and the total. -/
def text (color : Bool) (r : Report) : Text := (r.lines color).flatMap fun line => line ++ ['\n']

end Report

end WordingAudit
