import WordingAudit.CharSet

/-!
Patterns as expressions over characters. The constructors in this module that build one expression
from others keep them simplified: nothing empty in a sequence, no sequence as the first part of
another, no alternatives between single characters, no common beginning of alternatives.
-/

namespace WordingAudit.Pattern

/-- A condition on a position in a text. Word conditions come for the characters of words in any
script (`wide`) and for those in ASCII. -/
inductive Look
  | start
  | stop
  | lineStart (crlf : Bool)
  | lineStop (crlf : Bool)
  | wordBoundary (wide : Bool)
  | notWordBoundary (wide : Bool)
  | wordStart (wide : Bool)
  | wordStop (wide : Bool)
  | wordStartHalf (wide : Bool)
  | wordStopHalf (wide : Bool)
deriving DecidableEq, Repr

/-- An expression: what a pattern says a text must look like. Repetitions and alternatives come
with a preference: greedy ones try to go on first, and earlier alternatives come first. -/
inductive Expr
  | empty
  | set (members : CharSet)
  | look (condition : Look)
  | repeated (least : Nat) (most : Option Nat) (greedy : Bool) (body : Expr)
  | group (index : Nat) (name : Option Text) (body : Expr)
  | seq (first second : Expr)
  | alt (first second : Expr)
deriving DecidableEq, Repr

namespace Expr

/-- The length of the shortest text that fits, when the expression says so. -/
def minLength : Expr → Option Nat
  | empty => some 0
  | set members => if members.ranges.isEmpty then none else some 1
  | look _ => some 0
  | repeated least _ _ body => body.minLength.map (least * ·)
  | group _ _ body => body.minLength
  | seq a b =>
    match a.minLength, b.minLength with
    | some m, some n => some (m + n)
    | _, _ => none
  | alt a b =>
    match a.minLength, b.minLength with
    | some m, some n => some (min m n)
    | _, _ => none

/-- The length of the longest text that fits, when there is one. -/
def maxLength : Expr → Option Nat
  | empty => some 0
  | set members => if members.ranges.isEmpty then none else some 1
  | look _ => some 0
  | repeated _ most _ body =>
    match most, body.maxLength with
    | some k, some n => some (k * n)
    | _, _ => none
  | group _ _ body => body.maxLength
  | seq a b =>
    match a.maxLength, b.maxLength with
    | some m, some n => some (m + n)
    | _, _ => none
  | alt a b =>
    match a.maxLength, b.maxLength with
    | some m, some n => some (max m n)
    | _, _ => none

/-- The parts of a sequence. -/
def parts : Expr → List Expr
  | seq a b => a :: b.parts
  | e => [e]

/-- The alternatives of an expression. -/
def branches : Expr → List Expr
  | alt a b => a :: b.branches
  | e => [e]

/-- The number of constructors. -/
def size : Expr → Nat
  | repeated _ _ _ body => body.size + 1
  | group _ _ body => body.size + 1
  | seq a b => a.size + b.size + 1
  | alt a b => a.size + b.size + 1
  | _ => 1

/-- One expression after the other. -/
def append : Expr → Expr → Expr
  | empty, e => e
  | seq a b, e => seq a (append b e)
  | a, empty => a
  | a, e => seq a e

/-- All the expressions one after the other. -/
def sequence (es : List Expr) : Expr := es.foldr append empty

/-- The expression for a literal text. -/
def literal (t : Text) : Expr := sequence (t.map fun c => set (CharSet.single c))

/-- The expression `least` to `most` times. A body that fits the empty text only counts once,
no repetition at all is the empty expression, and exactly one is the body itself. -/
def times (least : Nat) (most : Option Nat) (greedy : Bool) (body : Expr) : Expr :=
  let (least, most) :=
    if body.maxLength = some 0 then (min least 1, some (min (most.getD 1) 1)) else (least, most)
  if least = 0 && most = some 0 then empty
  else if least = 1 && most = some 1 then body
  else repeated least most greedy body

/-- The union of the expressions, if each is a set. -/
def asSet? (es : List Expr) : Option CharSet :=
  es.foldr (fun e rest =>
    match e, rest with
    | set members, some s => some (members.union s)
    | _, _ => none) (some CharSet.empty)

/-- The beginning that two lists share. -/
def commonParts : List Expr → List Expr → List Expr
  | x :: xs, y :: ys => if x = y then x :: commonParts xs ys else []
  | _, _ => []

/-- The beginning that all the expressions share; only proper sequences share one. -/
def commonBeginning (es : List Expr) : List Expr :=
  match es.map parts with
  | [] => []
  | first :: rest =>
    if (first :: rest).all (1 < ·.length) then rest.foldl commonParts first else []

/-- Alternatives, as they come. -/
def alternatives : List Expr → Expr
  | [] => set CharSet.empty
  | [e] => e
  | e :: rest => alt e (alternatives rest)

/-- One of the expressions, earlier ones first: sets become one set, and a common beginning is
taken out. `fuel` bounds how often that can happen. -/
def choiceWithin : Nat → List Expr → Expr
  | 0, es => alternatives es
  | fuel + 1, es =>
    let es := es.flatMap branches
    match es with
    | [e] => e
    | _ =>
      match asSet? es with
      | some members => set members
      | none =>
        match commonBeginning es with
        | [] => alternatives es
        | common =>
          let tails := es.map fun e => sequence (e.parts.drop common.length)
          sequence (common ++ [choiceWithin fuel tails])

/-- One of the expressions, earlier ones first. -/
def choice (es : List Expr) : Expr := choiceWithin (es.foldl (fun n e => n + e.size) 0 + 1) es

/-- The groups that are left in the expression, from left to right. -/
def groups : Expr → List (Nat × Option Text)
  | repeated _ _ _ body => body.groups
  | group index name body => (index, name) :: body.groups
  | seq a b => a.groups ++ b.groups
  | alt a b => a.groups ++ b.groups
  | _ => []

end Expr

end WordingAudit.Pattern
