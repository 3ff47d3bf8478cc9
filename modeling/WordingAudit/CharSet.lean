import WordingAudit.Text

/-!
Sets of characters, written as ranges of code points. Every operation answers in normal form:
ranges in ascending order with a gap between neighbours.
-/

namespace WordingAudit

/-- A set of characters: ranges of code points, both ends included. -/
structure CharSet where
  ranges : List (Nat × Nat)
deriving DecidableEq, Repr

namespace CharSet

/-- The last code point. -/
def maxCode : Nat := 0x10FFFF

def empty : CharSet := ⟨[]⟩

/-- Every character. -/
def all : CharSet := ⟨[(0, maxCode)]⟩

def single (c : Char) : CharSet := ⟨[(c.toNat, c.toNat)]⟩

/-- All characters from `first` to `last`. -/
def range (first last : Char) : CharSet := ⟨[(first.toNat, last.toNat)]⟩

def contains (s : CharSet) (c : Char) : Bool :=
  s.ranges.any fun (lo, hi) => decide (lo ≤ c.toNat) && decide (c.toNat ≤ hi)

/-- Two ascending lists of ranges in one, by lower end; `fuel` is at least their length. -/
def mergeRanges : Nat → List (Nat × Nat) → List (Nat × Nat) → List (Nat × Nat)
  | 0, xs, ys => xs ++ ys
  | _ + 1, [], ys => ys
  | _ + 1, xs, [] => xs
  | fuel + 1, x :: xs, y :: ys =>
    if x.1 ≤ y.1 then x :: mergeRanges fuel xs (y :: ys) else y :: mergeRanges fuel (x :: xs) ys

/-- Joins each range to the next one when they meet or overlap. -/
def joinRanges (current : Nat × Nat) : List (Nat × Nat) → List (Nat × Nat)
  | [] => [current]
  | next :: rest =>
    if current.1 ≤ next.1 ∧ next.1 ≤ current.2 + 1 then
      joinRanges (current.1, max current.2 next.2) rest
    else current :: joinRanges next rest

def union (s t : CharSet) : CharSet :=
  match mergeRanges (s.ranges.length + t.ranges.length) s.ranges t.ranges with
  | [] => empty
  | first :: rest => ⟨joinRanges first rest⟩

/-- The union of all the sets. -/
def unionAll (sets : List CharSet) : CharSet := sets.foldl union empty

/-- The gaps of an ascending list of ranges, from `start` on. -/
def gaps (start : Nat) : List (Nat × Nat) → List (Nat × Nat)
  | [] => if start ≤ maxCode then [(start, maxCode)] else []
  | (lo, hi) :: rest =>
    if start < lo then (start, lo - 1) :: gaps (hi + 1) rest else gaps (hi + 1) rest

def complement (s : CharSet) : CharSet := ⟨gaps 0 s.ranges⟩

def inter (s t : CharSet) : CharSet := (s.complement.union t.complement).complement

def diff (s t : CharSet) : CharSet := s.inter t.complement

/-- The characters in exactly one of the two sets. -/
def symmDiff (s t : CharSet) : CharSet := (s.diff t).union (t.diff s)

/-- The set with these ranges of code points, given in any order. -/
def ofRanges (ranges : List (Nat × Nat)) : CharSet :=
  ranges.foldr (fun r s => union ⟨[r]⟩ s) empty

/-- The set of the characters of `t`. -/
def ofText (t : Text) : CharSet := ofRanges (t.map fun c => (c.toNat, c.toNat))

end CharSet

end WordingAudit
