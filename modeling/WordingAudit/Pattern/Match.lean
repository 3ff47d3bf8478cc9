import WordingAudit.Pattern.Program
import WordingAudit.Pattern.Reader

/-!
Patterns and their occurrences in a text. Testing for an occurrence, listing all of them and
replacing the first all rest on one search.
-/

namespace WordingAudit

/-- A pattern that has been read: its text, the program that finds it, and the names of its groups.
Group 0 is the whole occurrence. -/
structure Pattern where
  source : Text
  program : Pattern.Program
  groupNames : List (Option Text)

namespace Pattern

/-- The names of the groups up to the last one that is left in the expression. -/
def nameGroups (groups : List (Nat × Option Text)) : List (Option Text) :=
  let last := groups.foldl (fun n g => max n g.1) 0
  (List.range (last + 1)).map fun i => ((groups.find? (·.1 == i)).map (·.2)).join

/-- The pattern with this text, if it is one. Neither the nesting of its groups nor the size of its
program is limited. -/
def ofText? (source : Text) : Option Pattern :=
  (read? source).map fun e => ⟨source, Program.ofExpr e, nameGroups e.groups⟩

/-- The number of groups, the whole occurrence left out. -/
def groupCount (p : Pattern) : Nat := p.groupNames.length - 1

/-- A part of a text by the offsets of its ends. -/
structure Span where
  start : Nat
  stop : Nat
deriving DecidableEq, Repr

/-- An occurrence of a pattern: where it is, and the slots its groups have set. -/
structure Match where
  span : Span
  slots : List (Nat × Nat)
deriving Repr

namespace Match

/-- Where a group is, if it takes part in the occurrence. -/
def group? (m : Match) (index : Nat) : Option Span :=
  match m.slots.lookup (2 * index), m.slots.lookup (2 * index + 1) with
  | some start, some stop => some ⟨start, stop⟩
  | _, _ => none

/-- The text of a group, if it takes part in the occurrence. -/
def text? (m : Match) (subject : Text) (index : Nat) : Option Text :=
  (m.group? index).map fun s => subject.slice s.start s.stop

end Match

/-- The first occurrence from a position on. -/
def findAt (p : Pattern) (c : Cursor) : Option Match :=
  (p.program.search c).bind fun t =>
    match t.slots.lookup 0, t.slots.lookup 1 with
    | some start, some stop => some ⟨⟨start, stop⟩, t.slots⟩
    | _, _ => none

/-- The first occurrence in a text. -/
def find (p : Pattern) (t : Text) : Option Match := p.findAt (Cursor.start t)

def occursIn (p : Pattern) (t : Text) : Bool := (p.find t).isSome

/-- The occurrences from a position on, none overlapping the one before. An empty one does not
count where the last one ended. -/
def occurrencesFrom (p : Pattern) : Nat → Cursor → Option Nat → List Match
  | 0, _, _ => []
  | fuel + 1, c, last =>
    match p.findAt c with
    | none => []
    | some m =>
      if m.span.start = m.span.stop && last = some m.span.stop then
        match c.next? with
        | none => []
        | some d => p.occurrencesFrom fuel d last
      else
        m :: p.occurrencesFrom fuel (c.advance (m.span.stop - c.offset)) (some m.span.stop)

/-- All occurrences in a text, from left to right. Between two of them the search moves at most
one extra character, so twice the length is enough fuel. -/
def occurrences (p : Pattern) (t : Text) : List Match :=
  p.occurrencesFrom (2 * t.length + 2) (Cursor.start t) none

/-- The text with its first occurrence replaced by what `replacement` makes of it. -/
def replaceFirst (p : Pattern) (replacement : Match → Text) (t : Text) : Text :=
  match p.find t with
  | none => t
  | some m => t.take m.span.start ++ replacement m ++ t.drop m.span.stop

end Pattern

end WordingAudit
