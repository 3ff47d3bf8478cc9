import WordingAudit.Pattern.Class

/-!
Reading a pattern from its text, one construct a step, with the groups that are still open on a
stack. A text that is no pattern gives nothing. Groups may be nested as deep as the text goes.
-/

namespace WordingAudit.Pattern

/-- A group that is being read: its finished alternatives and the parts of the current one, both
in reverse. A part without an expression is a change of settings. -/
structure OpenGroup where
  branches : List Expr
  parts : List (Option Expr)

namespace OpenGroup

def new : OpenGroup := ⟨[], []⟩

def push (g : OpenGroup) (e : Option Expr) : OpenGroup := { g with parts := e :: g.parts }

/-- The current alternative. -/
def current (g : OpenGroup) : Expr := Expr.sequence (g.parts.reverse.filterMap id)

/-- What the whole group stands for. -/
def close (g : OpenGroup) : Expr :=
  match g.branches with
  | [] => g.current
  | _ => Expr.choice ((g.current :: g.branches).reverse)

end OpenGroup

/-- What a group does when it closes: number its text, or nothing. The settings that held before
it hold again after it. -/
structure Frame where
  capture : Option (Nat × Option Text)
  flags : Flags
  around : OpenGroup

/-- How far a pattern has been read. -/
structure Reading where
  flags : Flags
  nextGroup : Nat
  names : List Text
  current : OpenGroup
  outer : List Frame

namespace Reading

def start : Reading := ⟨{}, 1, [], OpenGroup.new, []⟩

def push (r : Reading) (e : Option Expr) : Reading := { r with current := r.current.push e }

/-- Opens a group; `flags` hold inside it. -/
def enter (r : Reading) (capture : Option (Nat × Option Text)) (flags : Flags) : Reading :=
  { r with
    flags := flags
    nextGroup := if capture.isSome then r.nextGroup + 1 else r.nextGroup
    current := OpenGroup.new
    outer := ⟨capture, r.flags, r.current⟩ :: r.outer }

/-- Closes the innermost group. -/
def leave? (r : Reading) : Option Reading :=
  match r.outer with
  | [] => none
  | frame :: outer =>
    let body := r.current.close
    let e :=
      match frame.capture with
      | none => body
      | some (index, name) => Expr.group index name body
    some { r with flags := frame.flags, current := frame.around.push (some e), outer := outer }

/-- Ends the current alternative and begins the next. -/
def alternate (r : Reading) : Reading :=
  { r with current := ⟨r.current.current :: r.current.branches, []⟩ }

/-- Replaces the last part by its repetition; there must be one to repeat. -/
def repeat? (r : Reading) (least : Nat) (most : Option Nat) (greedy : Bool) : Option Reading :=
  match r.current.parts with
  | some e :: parts =>
    let e := Expr.times least most (greedy != r.flags.swapGreed) e
    some { r with current := { r.current with parts := some e :: parts } }
  | _ => none

end Reading

/-- Whether a character can stand in the name of a group, as its first or a later character. -/
def isNameCharacter (first : Bool) (c : Char) : Bool :=
  if c.toNat < 128 then
    c.isAlpha || c = '_' || (!first && (c.isDigit || c = '.' || c = '[' || c = ']'))
  else if first then Unicode.alphabetic.contains c
  else Unicode.alphanumeric.contains c

/-- A group's name up to its closing angle bracket, and what follows. -/
def readName? (first : Bool) : Text → Option (Text × Text)
  | [] => none
  | c :: rest =>
    if c = '>' then (if first then none else some ([], rest))
    else if isNameCharacter first c then
      (readName? false rest).map fun (name, rest) => (c :: name, rest)
    else none

/-- The setting that a letter names, switched on or off. -/
def setFlag? (flags : Flags) (value : Bool) : Char → Option Flags
  | 'i' => some { flags with ignoreCase := value }
  | 'm' => some { flags with multiLine := value }
  | 's' => some { flags with dotAll := value }
  | 'U' => some { flags with swapGreed := value }
  | 'u' => some { flags with wide := value }
  | 'R' => some { flags with crlf := value }
  | 'x' => some { flags with ignoreBlanks := value }
  | _ => none

/-- Settings up to the character that ends them: the new settings, that character, and the rest.
No letter comes twice, the hyphen comes at most once and not last. -/
def readFlags? (seen : List Char) (flags : Flags) : Text → Option (Flags × Char × List Char × Text)
  | [] => none
  | c :: rest =>
    if c = ':' || c = ')' then
      if seen.head? = some '-' then none else some (flags, c, seen, rest)
    else if seen.contains c then none
    else if c = '-' then readFlags? (c :: seen) flags rest
    else (setFlag? flags (!seen.contains '-') c).bind fun flags => readFlags? (c :: seen) flags rest

/-- A named group after the bracket that opens its name. -/
def readNamedGroup? (r : Reading) (t : Text) : Option (Reading × Text) := do
  let (name, rest) ← readName? true t
  if r.names.contains name then none
  else
    let group := some (r.nextGroup, some name)
    some ({ r with names := name :: r.names }.enter group r.flags, rest)

/-- What follows an opening parenthesis: a numbered or named group, a group with settings, or a
change of settings for the rest of the group around. Conditions on the surrounding text are
refused. -/
def readGroup? (r : Reading) (t : Text) : Option (Reading × Text) :=
  match r.flags.skip t with
  | '?' :: '=' :: _ => none
  | '?' :: '!' :: _ => none
  | '?' :: '<' :: '=' :: _ => none
  | '?' :: '<' :: '!' :: _ => none
  | '?' :: 'P' :: '<' :: rest => readNamedGroup? r rest
  | '?' :: '<' :: rest => readNamedGroup? r rest
  | '?' :: rest => do
    let (flags, last, seen, rest) ← readFlags? [] r.flags rest
    if last = ':' then some (r.enter none flags, rest)
    else if seen.isEmpty then none
    else some ({ r with flags := flags }.push none, rest)
  | rest => some (r.enter (some (r.nextGroup, none)) r.flags, rest)

/-- A number in a repetition, blanks around it left out: its value and the rest. -/
def readCount? (flags : Flags) (t : Text) : Option Nat × Text :=
  let rec digits (value : Option Nat) : Nat → Text → Option Nat × Text
    | fuel + 1, c :: rest =>
      if c.isDigit then
        digits (some (10 * value.getD 0 + (c.toNat - 48))) fuel (flags.skip rest)
      else (value, c :: rest)
    | _, t => (value, t)
  let (value, rest) := digits none (t.length + 1) (t.dropWhile isBlank)
  let value := value.filter (· < Nat.pow 2 32)
  (value, flags.skip (rest.dropWhile isBlank))

/-- The bounds of a repetition after the opening brace: least, most, and the rest. -/
def readBounds? (flags : Flags) (t : Text) : Option (Nat × Option Nat × Text) :=
  let (least, rest) := readCount? flags (flags.skip t)
  match least, rest with
  | some n, '}' :: rest => some (n, some n, rest)
  | some least, ',' :: rest =>
    match flags.skip rest with
    | '}' :: rest => some (least, none, rest)
    | rest =>
      match readCount? flags rest with
      | (some most, '}' :: rest) => if least ≤ most then some (least, some most, rest) else none
      | _ => none
  | _, _ => none

/-- A question mark after a repetition makes it reluctant. -/
def readGreed (t : Text) : Bool × Text :=
  match t with
  | '?' :: rest => (false, rest)
  | _ => (true, t)

/-- One construct of a pattern: `c` and what follows it. -/
def readStep? (r : Reading) (c : Char) (rest : Text) : Option (Reading × Text) :=
  match c with
  | '(' => readGroup? r rest
  | ')' => r.leave?.map fun r => (r, rest)
  | '|' => some (r.alternate, rest)
  | '[' =>
    (readClass? r.flags rest).map fun (members, rest) => (r.push (some (.set members)), rest)
  | '?' =>
    let (greedy, rest) := readGreed rest
    (r.repeat? 0 (some 1) greedy).map fun r => (r, rest)
  | '*' =>
    let (greedy, rest) := readGreed rest
    (r.repeat? 0 none greedy).map fun r => (r, rest)
  | '+' =>
    let (greedy, rest) := readGreed rest
    (r.repeat? 1 none greedy).map fun r => (r, rest)
  | '\x7b' =>
    (readBounds? r.flags rest).bind fun (least, most, rest) =>
      let (greedy, rest) := readGreed (r.flags.skip rest)
      (r.repeat? least most greedy).map fun r => (r, rest)
  | '\\' => do
    let (part, rest) ← readEscape? r.flags rest
    let e ← part.expr? r.flags
    some (r.push (some e), rest)
  | '.' =>
    if !r.flags.wide then none
    else
      let members :=
        if r.flags.dotAll then CharSet.all
        else if r.flags.crlf then (CharSet.ofText ['\n', '\r']).complement
        else (CharSet.single '\n').complement
      some (r.push (some (.set members)), rest)
  | '^' =>
    let look := if r.flags.multiLine then Look.lineStart r.flags.crlf else Look.start
    some (r.push (some (.look look)), rest)
  | '$' =>
    let look := if r.flags.multiLine then Look.lineStop r.flags.crlf else Look.stop
    some (r.push (some (.look look)), rest)
  | _ => ((Primitive.literal c false).expr? r.flags).map fun e => (r.push (some e), rest)

/-- Reads constructs until the text ends; every group must be closed by then. Each step takes a
character at least, so `fuel` above the length is enough. -/
def readWithin? : Nat → Reading → Text → Option Expr
  | 0, _, _ => none
  | fuel + 1, r, t =>
    match r.flags.skip t with
    | [] => if r.outer.isEmpty then some r.current.close else none
    | c :: rest => (readStep? r c rest).bind fun (r, rest) => readWithin? fuel r rest

/-- The expression that a pattern's text stands for. -/
def read? (t : Text) : Option Expr := readWithin? (t.length + 1) Reading.start t

end WordingAudit.Pattern
