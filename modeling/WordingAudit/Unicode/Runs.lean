import WordingAudit.CharSet

/-!
Reading the character tables. A table is a list of lines, each a list of entries with blanks
between them; an entry is a run length, alone or after a label.
-/

namespace WordingAudit.Unicode

/-- The value of a row of decimal digits. -/
def number (digits : Text) : Nat := digits.foldl (fun n c => 10 * n + (c.toNat - 48)) 0

/-- The entries of a table. -/
def tokens (table : List String) : List Text :=
  table.flatMap fun line => (Text.of line).splitAll ' '

/-- An entry such as Lu26: what stands before the digits, and their value. -/
def labelledRun (entry : Text) : String × Nat :=
  (String.ofList (entry.takeWhile Char.isAlpha), number (entry.dropWhile Char.isAlpha))

def labelledRuns (table : List String) : List (String × Nat) := (tokens table).map labelledRun

/-- An entry such as EX:4: what stands before the colon, and the value of what follows. -/
def markedRun (entry : Text) : String × Nat :=
  match entry.splitOnce ':' with
  | none => (String.ofList entry, 0)
  | some (label, length) => (String.ofList label, number length)

def markedRuns (table : List String) : List (String × Nat) := (tokens table).map markedRun

/-- The ranges of the runs whose label is wanted, when the first run starts at `start`. -/
def wantedRanges (wanted : String → Bool) (start : Nat) : List (String × Nat) → List (Nat × Nat)
  | [] => []
  | (label, length) :: rest =>
    let others := wantedRanges wanted (start + length) rest
    if wanted label && 0 < length then (start, start + length - 1) :: others else others

/-- The characters in the runs whose label is wanted. -/
def ofRuns (wanted : String → Bool) (runs : List (String × Nat)) : CharSet :=
  (CharSet.mk (wantedRanges wanted 0 runs)).union CharSet.empty

/-- The ranges of every second run, when the first run starts at `start` and is left out. -/
def insideRanges (start : Nat) : List Nat → List (Nat × Nat)
  | outside :: inside :: rest =>
    (start + outside, start + outside + inside - 1) :: insideRanges (start + outside + inside) rest
  | _ => []

/-- The characters of a table of lengths outside and inside by turns. -/
def ofLengths (table : List String) : CharSet := ⟨insideRanges 0 ((tokens table).map number)⟩

end WordingAudit.Unicode
