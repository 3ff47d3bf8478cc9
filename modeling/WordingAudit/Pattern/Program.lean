import Std.Data.TreeSet
import WordingAudit.Pattern.Expr
import WordingAudit.Unicode.Property

/-!
Finding the first place where an expression fits. The expression becomes a program of small
instructions; a search follows the ways through it in order of preference and never goes twice
through one instruction at one position, so its time is the product of the two lengths.
-/

namespace WordingAudit.Pattern

/-- An expression with bounded repetitions written out and groups as marks. -/
inductive Node
  | empty
  | one (members : CharSet)
  | look (condition : Look)
  | mark (slot : Nat)
  | seq (first second : Node)
  | alt (first second : Node)
  | star (greedy : Bool) (body : Node)
  | plus (greedy : Bool) (body : Node)

namespace Node

/-- The body once or not at all. -/
def optional (greedy : Bool) (body : Node) : Node :=
  if greedy then alt body empty else alt empty body

/-- The body exactly `n` times. -/
def exactly (body : Node) : Nat → Node
  | 0 => empty
  | 1 => body
  | n + 1 => seq body (exactly body n)

/-- The body up to `n` times, each further time inside the one before. -/
def upTo (greedy : Bool) (body : Node) : Nat → Node
  | 0 => empty
  | n + 1 => optional greedy (seq body (upTo greedy body n))

/-- The body any number of times from `least` on. A body that may be empty is tried once before
the choice to go on, so that preferences come in the right order. -/
def atLeast (greedy mayBeEmpty : Bool) (body : Node) : Nat → Node
  | 0 => if mayBeEmpty then optional greedy (plus greedy body) else star greedy body
  | 1 => plus greedy body
  | n + 1 => seq (exactly body n) (plus greedy body)

/-- The node for an expression. Group `i` sets slots `2 i` and `2 i + 1`. -/
def ofExpr : Expr → Node
  | .empty => empty
  | .set members => one members
  | .look condition => look condition
  | .repeated least none greedy body =>
    atLeast greedy (body.minLength.getD 0 = 0) (ofExpr body) least
  | .repeated least (some most) greedy body =>
    if least = 0 then upTo greedy (ofExpr body) most
    else seq (exactly (ofExpr body) least) (upTo greedy (ofExpr body) (most - least))
  | .group index _ body => seq (mark (2 * index)) (seq (ofExpr body) (mark (2 * index + 1)))
  | .seq a b => seq (ofExpr a) (ofExpr b)
  | .alt a b => alt (ofExpr a) (ofExpr b)

/-- The number of instructions for a node. -/
def size : Node → Nat
  | seq a b => a.size + b.size
  | alt a b => a.size + b.size + 1
  | star _ a => a.size + 1
  | plus _ a => a.size + 1
  | _ => 1

end Node

/-- An instruction: take a character, check the position, set a slot, or choose; then go on. -/
inductive Instruction
  | take (members : CharSet) (next : Nat)
  | check (condition : Look) (next : Nat)
  | set (slot : Nat) (next : Nat)
  | jump (next : Nat)
  | split (first second : Nat)
deriving Repr

/-- The choice between going on with a repetition and leaving it. -/
def Instruction.loop (greedy : Bool) (again leave : Nat) : Instruction :=
  if greedy then split again leave else split leave again

/-- The instructions for a node when they begin at address `start` and go on at `next`. -/
def Node.code (next start : Nat) : Node → List Instruction
  | empty => [.jump next]
  | one members => [.take members next]
  | look condition => [.check condition next]
  | mark slot => [.set slot next]
  | seq a b => a.code (start + a.size) start ++ b.code next (start + a.size)
  | alt a b =>
    .split (start + 1) (start + 1 + a.size) ::
      (a.code next (start + 1) ++ b.code next (start + 1 + a.size))
  | star greedy a => .loop greedy (start + 1) next :: a.code start (start + 1)
  | plus greedy a => a.code (start + a.size) start ++ [.loop greedy start next]

/-- A position in a text: the character before it, what follows, and how many came before. -/
structure Cursor where
  before : Option Char
  after : Text
  offset : Nat

namespace Cursor

def start (t : Text) : Cursor := ⟨none, t, 0⟩

/-- The position one character further, if there is one. -/
def next? (c : Cursor) : Option Cursor :=
  match c.after with
  | [] => none
  | d :: rest => some ⟨some d, rest, c.offset + 1⟩

/-- The position `n` characters further, or the end. -/
def advance (c : Cursor) : Nat → Cursor
  | 0 => c
  | n + 1 =>
    match c.next? with
    | none => c
    | some d => d.advance n

end Cursor

/-- Whether a character belongs to words. -/
def isWord (wide : Bool) (c : Option Char) : Bool :=
  match c with
  | none => false
  | some c =>
    if c.toNat < 128 then c.isAlphanum || c = '_'
    else wide && Unicode.wordCharacters.contains c

/-- Whether the condition holds at the position. -/
def Look.holds (condition : Look) (c : Cursor) : Bool :=
  match condition with
  | start => c.offset = 0
  | stop => c.after.isEmpty
  | lineStart crlf =>
    c.before.isNone || c.before = some '\n' ||
      (crlf && c.before = some '\r' && c.after.head? != some '\n')
  | lineStop crlf =>
    match c.after.head? with
    | none => true
    | some d =>
      if crlf then d = '\r' || (d = '\n' && c.before != some '\r') else d = '\n'
  | wordBoundary wide => isWord wide c.before != isWord wide c.after.head?
  | notWordBoundary wide => isWord wide c.before == isWord wide c.after.head?
  | wordStart wide => !isWord wide c.before && isWord wide c.after.head?
  | wordStop wide => isWord wide c.before && !isWord wide c.after.head?
  | wordStartHalf wide => !isWord wide c.before
  | wordStopHalf wide => !isWord wide c.after.head?

/-- A way through a program: the next instruction, the position, and the slots set so far, the
latest first. -/
structure Thread where
  address : Nat
  cursor : Cursor
  slots : List (Nat × Nat)

/-- Where an instruction leads, the preferred way first. -/
def Instruction.successors (i : Instruction) (t : Thread) : List Thread :=
  match i with
  | take members next =>
    match t.cursor.after with
    | [] => []
    | d :: rest =>
      if members.contains d then [⟨next, ⟨some d, rest, t.cursor.offset + 1⟩, t.slots⟩] else []
  | check condition next => if condition.holds t.cursor then [{ t with address := next }] else []
  | set slot next => [⟨next, t.cursor, (slot, t.cursor.offset) :: t.slots⟩]
  | jump next => [{ t with address := next }]
  | split first second => [{ t with address := first }, { t with address := second }]

/-- A program: an address past the last instruction means success. -/
abbrev Program := Array Instruction

namespace Program

/-- Follows the waiting threads, the first one first, and answers the first that succeeds. An
instruction reached a second time at one position is not followed again. -/
def run (p : Program) : Nat → List Thread → Std.TreeSet Nat → Option Thread
  | 0, _, _ => none
  | _ + 1, [], _ => none
  | fuel + 1, t :: waiting, seen =>
    let key := t.cursor.offset * (p.size + 1) + t.address
    if seen.contains key then p.run fuel waiting seen
    else
      match p[t.address]? with
      | none => some t
      | some i => p.run fuel (i.successors t ++ waiting) (seen.insert key)

/-- The preferred way to success from a position. Each pair of an address and a position puts at
most two threads on the waiting list. -/
def search (p : Program) (c : Cursor) : Option Thread :=
  p.run (2 * (p.size + 1) * (c.after.length + 1) + 2) [⟨0, c, []⟩] ∅

/-- The program that finds the expression at the first position where it fits; the whole of what
it finds is group 0. -/
def ofExpr (e : Expr) : Program :=
  let node := Node.seq (.star false (.one CharSet.all)) (Node.ofExpr (.group 0 none e))
  (node.code node.size 0).toArray

end Program

end WordingAudit.Pattern
