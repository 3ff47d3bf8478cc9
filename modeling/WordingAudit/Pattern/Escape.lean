import WordingAudit.Pattern.Expr
import WordingAudit.Unicode.Property

/-!
The settings under which a pattern is read, and what a backslash and the characters after it stand
for.
-/

namespace WordingAudit.Pattern

/-- The settings that a pattern can switch on and off. -/
structure Flags where
  ignoreCase : Bool := false
  multiLine : Bool := false
  dotAll : Bool := false
  swapGreed : Bool := false
  wide : Bool := true
  crlf : Bool := false
  ignoreBlanks : Bool := false
deriving DecidableEq, Repr

/-- A blank between the parts of a pattern. -/
def isBlank (c : Char) : Bool := Unicode.whiteSpace.contains c

/-- The text after its blanks and comments; a comment runs from a number sign to the line's end. -/
def skipBlanks (comment : Bool) : Text → Text
  | [] => []
  | c :: rest =>
    if comment then skipBlanks (c != '\n') rest
    else if isBlank c then skipBlanks false rest
    else if c = '#' then skipBlanks true rest
    else c :: rest

namespace Flags

/-- Where reading goes on: blanks and comments do not count when the settings say so. -/
def skip (flags : Flags) (t : Text) : Text := if flags.ignoreBlanks then skipBlanks false t else t

/-- The next character that counts; one number sign on the way to it is skipped. -/
def peek (flags : Flags) (t : Text) : Option Char :=
  if flags.ignoreBlanks then
    match t.dropWhile isBlank with
    | '#' :: rest => ((rest.dropWhile isBlank).head?).or t.head?
    | c :: _ => some c
    | [] => t.head?
  else t.head?

/-- The set with the other cases of its members, when case does not count. -/
def foldCase (flags : Flags) (s : CharSet) : CharSet :=
  if !flags.ignoreCase then s
  else if flags.wide then Unicode.closeUnderCase s
  else
    let upper := s.inter ⟨[(0x41, 0x5A)]⟩
    let lower := s.inter ⟨[(0x61, 0x7A)]⟩
    CharSet.unionAll [s, ⟨upper.ranges.map fun (lo, hi) => (lo + 32, hi + 32)⟩,
      ⟨lower.ranges.map fun (lo, hi) => (lo - 32, hi - 32)⟩]

end Flags

/-- The set or its complement. Outside Unicode mode a complement would hold more than characters,
so there is none. -/
def negateIf? (flags : Flags) (negated : Bool) (s : CharSet) : Option CharSet :=
  if !negated then some s
  else if flags.wide then some s.complement
  else none

/-- A shorthand class: digits, blanks, characters of words. -/
inductive Shorthand
  | digit
  | space
  | word
deriving DecidableEq, Repr

/-- The members of a shorthand class, of any script or of ASCII. -/
def Shorthand.members (wide : Bool) : Shorthand → CharSet
  | digit => if wide then Unicode.digits else ⟨[(0x30, 0x39)]⟩
  | space => if wide then Unicode.whiteSpace else ⟨[(0x09, 0x0D), (0x20, 0x20)]⟩
  | word =>
    if wide then Unicode.wordCharacters
    else ⟨[(0x30, 0x39), (0x41, 0x5A), (0x5F, 0x5F), (0x61, 0x7A)]⟩

/-- A smallest part of a pattern. `byte` marks a character written as two hexadecimal digits. -/
inductive Primitive
  | literal (c : Char) (byte : Bool)
  | shorthand (kind : Shorthand) (negated : Bool)
  | property (members : CharSet) (negated : Bool)
  | look (condition : Look)

namespace Primitive

/-- The character that a member of a class stands for. Outside Unicode mode it is in ASCII. -/
def character? (flags : Flags) : Primitive → Option Char
  | literal c _ => if flags.wide || c.toNat < 128 then some c else none
  | _ => none

/-- The set that a member of a class stands for. -/
def members? (flags : Flags) : Primitive → Option CharSet
  | literal c byte => ((literal c byte).character? flags).map CharSet.single
  | shorthand kind negated => negateIf? flags negated (kind.members flags.wide)
  | property members negated =>
    if flags.wide then negateIf? flags negated (flags.foldCase members) else none
  | look _ => none

/-- The expression for a part that stands outside a class. -/
def expr? (flags : Flags) : Primitive → Option Expr
  | literal c byte =>
    if !flags.wide && byte && 128 ≤ c.toNat then none
    else if flags.wide || c.toNat < 128 then some (.set (flags.foldCase (CharSet.single c)))
    else some (.set (CharSet.single c))
  | look condition => some (.look condition)
  | p => (p.members? flags).map .set

end Primitive

/-- The value of a hexadecimal digit. -/
def hexDigit? (c : Char) : Option Nat :=
  if '0' ≤ c ∧ c ≤ '9' then some (c.toNat - 48)
  else if 'a' ≤ c ∧ c ≤ 'f' then some (c.toNat - 87)
  else if 'A' ≤ c ∧ c ≤ 'F' then some (c.toNat - 55)
  else none

/-- The character with this code, unless it is a surrogate or too large. -/
def scalar? (n : Nat) : Option Char := if n.isValidChar then some (Char.ofNat n) else none

/-- Exactly `count` hexadecimal digits: the value with what came before, and the rest. -/
def readHexDigits? (flags : Flags) (value : Nat) : Nat → Text → Option (Nat × Text)
  | 0, t => some (value, t)
  | _ + 1, [] => none
  | count + 1, c :: rest =>
    (hexDigit? c).bind fun d => readHexDigits? flags (16 * value + d) count (flags.skip rest)

/-- Hexadecimal digits up to a closing brace, at least one: the value, and what follows. -/
def readHexBraces? (flags : Flags) (value : Option Nat) : Nat → Text → Option (Nat × Text)
  | _ + 1, '}' :: rest => value.map fun n => (n, flags.skip rest)
  | fuel + 1, c :: rest =>
    (hexDigit? c).bind fun d =>
      readHexBraces? flags (some (16 * value.getD 0 + d)) fuel (flags.skip rest)
  | _, _ => none

/-- A character by its code, after the letter that says how many digits there are. -/
def readHex? (flags : Flags) (count : Nat) (t : Text) : Option (Primitive × Text) :=
  match flags.skip t with
  | '{' :: rest =>
    (readHexBraces? flags none (rest.length + 1) (flags.skip rest)).bind fun (n, rest) =>
      (scalar? n).map fun c => (.literal c false, rest)
  | rest =>
    (readHexDigits? flags 0 count rest).bind fun (n, rest) =>
      (scalar? n).map fun c => (.literal c (count = 2), rest)

/-- The text up to a closing brace, blanks that do not count left out, and what follows. -/
def readBraces? (flags : Flags) : Nat → Text → Option (Text × Text)
  | _ + 1, '}' :: rest => some ([], rest)
  | fuel + 1, c :: rest =>
    (readBraces? flags fuel (flags.skip rest)).map fun (name, rest) => (c :: name, rest)
  | _, _ => none

/-- What stands before and after the first occurrence of `part`. -/
def splitAt? (part : Text) (t : Text) : Option (Text × Text) :=
  if part.isPrefixOf t then some ([], t.drop part.length)
  else
    match t with
    | [] => none
    | c :: rest => (splitAt? part rest).map fun (a, b) => (c :: a, b)

/-- The characters that a property in braces stands for: a name, or a name and a value. -/
def namedProperty? (text : Text) : Option CharSet :=
  match splitAt? ['!', '='] text with
  | some (name, value) => Unicode.propertyValue? name value
  | none =>
    match text.splitOnce ':' with
    | some (name, value) => Unicode.propertyValue? name value
    | none =>
      match text.splitOnce '=' with
      | some (name, value) => Unicode.propertyValue? name value
      | none => Unicode.property? text

/-- A class of characters by property, after its letter. -/
def readProperty? (flags : Flags) (negated : Bool) (t : Text) : Option (Primitive × Text) :=
  match flags.skip t with
  | [] => none
  | '{' :: rest =>
    (readBraces? flags (rest.length + 1) (flags.skip rest)).bind fun (text, rest) =>
      (namedProperty? text).map fun members => (.property members negated, rest)
  | '\\' :: _ => none
  | c :: rest => (Unicode.property? [c]).map fun members => (.property members negated, rest)

/-- A kind of word boundary in braces: letters and hyphens up to the closing brace. -/
def readBoundaryName? (flags : Flags) : Nat → Text → Option (Text × Text)
  | _ + 1, '}' :: rest => some ([], rest)
  | fuel + 1, c :: rest =>
    if c.isAlpha || c = '-' then
      (readBoundaryName? flags fuel (flags.skip rest)).map fun (name, rest) => (c :: name, rest)
    else none
  | _, _ => none

/-- What follows the letter of a word boundary. Braces name the kind of boundary, unless what they
hold begins like the bounds of a repetition. -/
def readBoundary? (flags : Flags) (t : Text) : Option (Primitive × Text) :=
  match t with
  | '{' :: rest =>
    match flags.skip rest with
    | [] => none
    | c :: _ =>
      if c.isAlpha || c = '-' then
        (readBoundaryName? flags (rest.length + 1) (flags.skip rest)).bind fun (name, rest) =>
          match String.ofList name with
          | "start" => some (.look (.wordStart flags.wide), rest)
          | "end" => some (.look (.wordStop flags.wide), rest)
          | "start-half" => some (.look (.wordStartHalf flags.wide), rest)
          | "end-half" => some (.look (.wordStopHalf flags.wide), rest)
          | _ => none
      else some (.look (.wordBoundary flags.wide), t)
  | _ => some (.look (.wordBoundary flags.wide), t)

/-- What a backslash and the characters after it stand for, and the rest. Letters and digits have
a meaning or are refused; the other characters of ASCII but the angle brackets stand for
themselves. -/
def readEscape? (flags : Flags) (t : Text) : Option (Primitive × Text) :=
  match t with
  | [] => none
  | c :: rest =>
    match c with
    | 'x' => readHex? flags 2 rest
    | 'u' => readHex? flags 4 rest
    | 'U' => readHex? flags 8 rest
    | 'p' => readProperty? flags false rest
    | 'P' => readProperty? flags true rest
    | 'd' => some (.shorthand .digit false, rest)
    | 's' => some (.shorthand .space false, rest)
    | 'w' => some (.shorthand .word false, rest)
    | 'D' => some (.shorthand .digit true, rest)
    | 'S' => some (.shorthand .space true, rest)
    | 'W' => some (.shorthand .word true, rest)
    | 'a' => some (.literal '\x07' false, rest)
    | 'f' => some (.literal '\x0C' false, rest)
    | 't' => some (.literal '\t' false, rest)
    | 'n' => some (.literal '\n' false, rest)
    | 'r' => some (.literal '\r' false, rest)
    | 'v' => some (.literal '\x0B' false, rest)
    | 'A' => some (.look .start, rest)
    | 'z' => some (.look .stop, rest)
    | 'b' => readBoundary? flags rest
    | 'B' => some (.look (.notWordBoundary flags.wide), rest)
    | '<' => some (.look (.wordStart flags.wide), rest)
    | '>' => some (.look (.wordStop flags.wide), rest)
    | _ => if c.toNat < 128 && !c.isAlphanum then some (.literal c false, rest) else none

/-- The text with a backslash before each character that has a meaning in patterns. -/
def escape (t : Text) : Text :=
  t.flatMap fun c =>
    if ("\\.+*?()|[]\x7b\x7d^$#&-~").toList.contains c then ['\\', c] else [c]

end WordingAudit.Pattern
