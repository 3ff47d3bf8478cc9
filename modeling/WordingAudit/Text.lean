/-!
Text is a list of characters. This module holds the few operations on it that every other part
of the library uses; texts are ordered by code point, first difference first.
-/

namespace WordingAudit

/-- A piece of text, one element per Unicode scalar value. -/
abbrev Text := List Char

namespace Text

/-- The text that `s` is written with. -/
def of (s : String) : Text := s.toList

/-- The decimal digits of `n`. -/
def ofNat (n : Nat) : Text := Nat.toDigits 10 n

def startsWith (t start : Text) : Bool := start.isPrefixOf t

def endsWith (t ending : Text) : Bool := ending.isSuffixOf t

/-- `part` stands somewhere in `t`. -/
def contains (t part : Text) : Bool :=
  match t with
  | [] => part.isEmpty
  | _ :: rest => part.isPrefixOf t || contains rest part

/-- What stands before and after the first `c`, if there is one. -/
def splitOnce (t : Text) (c : Char) : Option (Text × Text) :=
  match t with
  | [] => none
  | d :: rest => if d = c then some ([], rest) else (splitOnce rest c).map fun (a, b) => (d :: a, b)

/-- The pieces between the occurrences of `c`; a text without `c` is its own only piece. -/
def splitAll (t : Text) (c : Char) : List Text :=
  match t with
  | [] => [[]]
  | d :: rest =>
    if d = c then [] :: splitAll rest c
    else
      match splitAll rest c with
      | [] => [[d]]
      | piece :: pieces => (d :: piece) :: pieces

/-- The pieces with `separator` between neighbours. -/
def join (separator : Text) : List Text → Text
  | [] => []
  | [t] => t
  | t :: rest => t ++ separator ++ join separator rest

/-- The characters from offset `start` up to offset `stop`. -/
def slice (t : Text) (start stop : Nat) : Text := (t.drop start).take (stop - start)

end Text

end WordingAudit
