import WordingAudit.Pattern.Escape

/-!
Reading bracketed character classes: ranges, escapes, named ASCII classes, nested classes, and
intersection, difference and symmetric difference of what stands around an operator.
-/

namespace WordingAudit.Pattern

/-- An operator between the two sides of a class. -/
inductive ClassOperator
  | inter
  | diff
  | symmDiff
deriving DecidableEq, Repr

/-- A class that is being read: the operand so far, and the operator with what stands left of it. -/
structure OpenClass where
  negated : Bool
  members : CharSet
  pending : Option (ClassOperator × CharSet)

namespace OpenClass

def add (level : OpenClass) (s : CharSet) : OpenClass :=
  { level with members := level.members.union s }

/-- The value of the operand so far combined with the operator before it. -/
def value (flags : Flags) (level : OpenClass) : CharSet :=
  match level.pending with
  | none => level.members
  | some (operator, left) =>
    let left := flags.foldCase left
    let right := flags.foldCase level.members
    match operator with
    | .inter => left.inter right
    | .diff => left.diff right
    | .symmDiff => left.symmDiff right

/-- The class after an operator has been read. -/
def operate (flags : Flags) (level : OpenClass) (operator : ClassOperator) : OpenClass :=
  { level with members := CharSet.empty, pending := some (operator, level.value flags) }

/-- The set that the class stands for. Outside Unicode mode a complement would hold more than
characters, so there is none. -/
def close? (flags : Flags) (level : OpenClass) : Option CharSet :=
  negateIf? flags level.negated (flags.foldCase (level.value flags))

end OpenClass

/-- The members of the ASCII class with this name. -/
def asciiClass? (name : Text) : Option CharSet :=
  match String.ofList name with
  | "alnum" => some ⟨[(0x30, 0x39), (0x41, 0x5A), (0x61, 0x7A)]⟩
  | "alpha" => some ⟨[(0x41, 0x5A), (0x61, 0x7A)]⟩
  | "ascii" => some ⟨[(0, 0x7F)]⟩
  | "blank" => some ⟨[(0x09, 0x09), (0x20, 0x20)]⟩
  | "cntrl" => some ⟨[(0, 0x1F), (0x7F, 0x7F)]⟩
  | "digit" => some ⟨[(0x30, 0x39)]⟩
  | "graph" => some ⟨[(0x21, 0x7E)]⟩
  | "lower" => some ⟨[(0x61, 0x7A)]⟩
  | "print" => some ⟨[(0x20, 0x7E)]⟩
  | "punct" => some ⟨[(0x21, 0x2F), (0x3A, 0x40), (0x5B, 0x60), (0x7B, 0x7E)]⟩
  | "space" => some ⟨[(0x09, 0x0D), (0x20, 0x20)]⟩
  | "upper" => some ⟨[(0x41, 0x5A)]⟩
  | "word" => some ⟨[(0x30, 0x39), (0x41, 0x5A), (0x5F, 0x5F), (0x61, 0x7A)]⟩
  | "xdigit" => some ⟨[(0x30, 0x39), (0x41, 0x46), (0x61, 0x66)]⟩
  | _ => none

/-- A named ASCII class after its first bracket: whether it is negated, its members, and the rest.
Where none stands, the bracket opens a class of its own. -/
def readAsciiClass? (t : Text) : Option (Bool × CharSet × Text) :=
  match t with
  | ':' :: rest =>
    let (negated, body) :=
      match rest with
      | '^' :: body => (true, body)
      | _ => (false, rest)
    let name := body.takeWhile (· != ':')
    match body.drop name.length with
    | ':' :: ']' :: rest => (asciiClass? name).map fun members => (negated, members, rest)
    | _ => none
  | _ => none

/-- Hyphens at the beginning of a class stand for themselves. -/
def readLeadingHyphens (flags : Flags) (level : OpenClass) : Nat → Text → OpenClass × Text
  | fuel + 1, '-' :: rest =>
    readLeadingHyphens flags (level.add (CharSet.single '-')) fuel (flags.skip rest)
  | _, t => (level, t)

/-- The beginning of a class after its bracket. A closing bracket that comes first is a member. -/
def openClass (flags : Flags) (t : Text) : OpenClass × Text :=
  let t := flags.skip t
  let (negated, t) :=
    match t with
    | '^' :: rest => (true, flags.skip rest)
    | _ => (false, t)
  let (level, t) := readLeadingHyphens flags ⟨negated, CharSet.empty, none⟩ t.length t
  match t with
  | ']' :: rest =>
    if level.members.ranges.isEmpty then (level.add (CharSet.single ']'), flags.skip rest)
    else (level, t)
  | _ => (level, t)

/-- One member of a class: an escape, or a character that stands for itself. -/
def readClassItem? (flags : Flags) (t : Text) : Option (Primitive × Text) :=
  match t with
  | [] => none
  | '\\' :: rest => readEscape? flags rest
  | c :: rest => some (.literal c false, rest)

/-- A single member or a range. A hyphen before a closing bracket is no range, and two hyphens are
an operator. -/
def readClassRange? (flags : Flags) (t : Text) : Option (CharSet × Text) := do
  let (first, rest) ← readClassItem? flags t
  let rest := flags.skip rest
  match rest with
  | [] => none
  | '-' :: after =>
    if flags.peek after = some ']' || flags.peek after = some '-' then
      return (← first.members? flags, rest)
    else
      let (last, rest) ← readClassItem? flags (flags.skip after)
      let low ← first.character? flags
      let high ← last.character? flags
      if low.toNat ≤ high.toNat then return (CharSet.range low high, rest) else none
  | _ => return (← first.members? flags, rest)

/-- A class up to its closing bracket, and the rest. `outer` holds the classes around it. -/
def readClassWithin (flags : Flags) :
    Nat → OpenClass → List OpenClass → Text → Option (CharSet × Text)
  | 0, _, _, _ => none
  | fuel + 1, level, outer, t =>
    match flags.skip t with
    | [] => none
    | '[' :: rest =>
      match readAsciiClass? rest with
      | some (negated, members, rest) => do
        let members ← negateIf? flags negated (flags.foldCase members)
        readClassWithin flags fuel (level.add members) outer rest
      | none =>
        let (inner, rest) := openClass flags rest
        readClassWithin flags fuel inner (level :: outer) rest
    | ']' :: rest => do
      let members ← level.close? flags
      match outer with
      | [] => some (members, rest)
      | around :: outer => readClassWithin flags fuel (around.add members) outer rest
    | '&' :: '&' :: rest => readClassWithin flags fuel (level.operate flags .inter) outer rest
    | '-' :: '-' :: rest => readClassWithin flags fuel (level.operate flags .diff) outer rest
    | '~' :: '~' :: rest => readClassWithin flags fuel (level.operate flags .symmDiff) outer rest
    | t => do
      let (members, rest) ← readClassRange? flags t
      readClassWithin flags fuel (level.add members) outer rest

/-- A class after its opening bracket: its members and the rest. -/
def readClass? (flags : Flags) (t : Text) : Option (CharSet × Text) :=
  let (level, rest) := openClass flags t
  readClassWithin flags (t.length + 1) level [] rest

end WordingAudit.Pattern
