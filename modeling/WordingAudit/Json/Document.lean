import WordingAudit.Json.Basic
import WordingAudit.Json.Binary64

/-!
Reading JSON text as far as it goes. A document keeps what stands before the first mistake and
marks the mistake, so that a reader who looks for certain members meets mistakes of form and
mistakes of content in the order of the text.
-/

namespace WordingAudit

/-- JSON text as far as it could be read. -/
inductive Document
  | null
  | bool (value : Bool)
  | int (value : Int)
  | float (bits : Nat)
  | str (value : Text)
  /-- Correct in form but without a value: a number out of range, half of a surrogate pair. -/
  | unusable
  /-- Here the text stops being JSON; nothing is known of what follows. -/
  | broken
  /-- An array; `complete` says that it ends with its bracket. -/
  | arr (items : List Document) (complete : Bool)
  /-- An object; a key without a value of its own is none. -/
  | obj (members : List (Option Text × Document)) (complete : Bool)
deriving Repr, Inhabited

namespace Document

/-- Blanks between the parts of a document. -/
def isBlank (c : Char) : Bool := c = ' ' || c = '\n' || c = '\t' || c = '\r'

def skip (t : Text) : Text := t.dropWhile isBlank

/-- The value of a hexadecimal digit. -/
def hexDigit? (c : Char) : Option Nat :=
  if '0' ≤ c ∧ c ≤ '9' then some (c.toNat - 48)
  else if 'a' ≤ c ∧ c ≤ 'f' then some (c.toNat - 87)
  else if 'A' ≤ c ∧ c ≤ 'F' then some (c.toNat - 55)
  else none

/-- The code unit that four hexadecimal digits stand for. -/
def codeUnit? (a b c d : Char) : Option Nat := do
  return 4096 * (← hexDigit? a) + 256 * (← hexDigit? b) + 16 * (← hexDigit? c) + (← hexDigit? d)

/-- The character that a letter after a backslash stands for. -/
def shortEscape? (c : Char) : Option Char :=
  match c with
  | '"' => some '"'
  | '\\' => some '\\'
  | '/' => some '/'
  | 'b' => some '\x08'
  | 'f' => some '\x0C'
  | 'n' => some '\n'
  | 'r' => some '\r'
  | 't' => some '\t'
  | _ => none

/-- The body of a string up to its closing quote: code units of escapes and plain characters, and
what follows the quote. -/
def readUnits? : Nat → Text → Option (List (Nat ⊕ Char) × Text)
  | 0, _ => none
  | fuel + 1, t =>
    match t with
    | [] => none
    | '"' :: rest => some ([], rest)
    | '\\' :: 'u' :: a :: b :: c :: d :: rest => do
      let unit ← codeUnit? a b c d
      let (units, rest) ← readUnits? fuel rest
      return (.inl unit :: units, rest)
    | '\\' :: c :: rest => do
      let plain ← shortEscape? c
      let (units, rest) ← readUnits? fuel rest
      return (.inr plain :: units, rest)
    | c :: rest =>
      if c.toNat < 32 then none
      else (readUnits? fuel rest).map fun (units, rest) => (.inr c :: units, rest)

/-- The text of code units and characters; a surrogate must be half of a pair. -/
def pair? : List (Nat ⊕ Char) → Option Text
  | [] => some []
  | .inr c :: rest => (pair? rest).map (c :: ·)
  | .inl high :: rest =>
    if high < 0xD800 ∨ 0xE000 ≤ high then (pair? rest).map (Char.ofNat high :: ·)
    else if 0xDC00 ≤ high then none
    else
      match rest with
      | .inl low :: rest =>
        if 0xDC00 ≤ low ∧ low < 0xE000 then
          (pair? rest).map (Char.ofNat (0x10000 + 1024 * (high - 0xD800) + (low - 0xDC00)) :: ·)
        else none
      | _ => none

/-- A string after its opening quote. Nothing: no string. No text: half of a surrogate pair. -/
def readString? (t : Text) : Option (Option Text × Text) :=
  (readUnits? (t.length + 1) t).map fun (units, rest) => (pair? units, rest)

def maxUnsigned : Nat := Nat.pow 2 64 - 1

/-- Digits added to a significand of 64 bits. Where the next digit does not fit, reading of the
value stops. The result: the significand, how many digits it took, and the rest. -/
def takeDigits (significand : Nat) : Text → Nat × Nat × Text
  | [] => (significand, 0, [])
  | c :: rest =>
    if c.isDigit && 10 * significand + (c.toNat - 48) ≤ maxUnsigned then
      let (value, count, rest) := takeDigits (10 * significand + (c.toNat - 48)) rest
      (value, count + 1, rest)
    else (significand, 0, c :: rest)

/-- How many digits come first, and what follows them. -/
def countDigits (t : Text) : Nat × Text :=
  let rest := t.dropWhile Char.isDigit
  (t.length - rest.length, rest)

/-- The value of a row of digits. -/
def digitsValue (digits : Text) : Nat := digits.foldl (fun n c => 10 * n + (c.toNat - 48)) 0

/-- A number with its sign. -/
def withSign (negative : Bool) (bits : Option Nat) : Document :=
  match bits with
  | none => unusable
  | some b => float (if negative then b + Binary64.signBit else b)

/-- The exponent of a number after its letter, when `exponent` is the power of ten so far. An
exponent beyond 32 bits makes the number zero or puts it out of range. -/
def readExponent (negative : Bool) (significand : Nat) (exponent : Int) (t : Text) :
    Document × Text :=
  let (down, t) :=
    match t with
    | '+' :: rest => (false, rest)
    | '-' :: rest => (true, rest)
    | _ => (false, t)
  let (count, rest) := countDigits t
  if count = 0 then (broken, [])
  else
    let value : Int := digitsValue (t.take count)
    let limit : Int := Nat.pow 2 31
    if limit ≤ value then
      if significand != 0 && !down then (unusable, rest) else (withSign negative (some 0), rest)
    else
      let total : Int :=
        if down then max (exponent - value) (-limit) else min (exponent + value) (limit - 1)
      (withSign negative (Binary64.ofDecimal? significand total), rest)

/-- What may follow the digits of a number that is no whole number: an exponent. -/
def readScale (negative : Bool) (significand : Nat) (exponent : Int) (t : Text) :
    Document × Text :=
  match t with
  | 'e' :: rest => readExponent negative significand exponent rest
  | 'E' :: rest => readExponent negative significand exponent rest
  | _ => (withSign negative (Binary64.ofDecimal? significand exponent), t)

/-- The digits after the point of a number; those that do not fit into 64 bits do not count. -/
def readPlaces (negative : Bool) (significand : Nat) (exponent : Int) (t : Text) :
    Document × Text :=
  let (count, _) := countDigits t
  if count = 0 then (broken, [])
  else
    let (value, taken, rest) := takeDigits significand t
    readScale negative value (exponent - taken) (countDigits rest).2

/-- A number after its sign. A whole number beyond 64 bits is a floating point number made of the
digits that fit; so is a negative zero. -/
def readNumber (negative : Bool) (t : Text) : Document × Text :=
  match t with
  | [] => (broken, [])
  | c :: _ =>
    if !c.isDigit then (broken, [])
    else
      let (value, count, rest) := takeDigits 0 t
      let (dropped, rest) := countDigits rest
      if c = '0' && 1 < count + dropped then (broken, [])
      else
        match rest with
        | '.' :: rest => readPlaces negative value dropped rest
        | 'e' :: rest => readExponent negative value dropped rest
        | 'E' :: rest => readExponent negative value dropped rest
        | _ =>
          if dropped != 0 then (withSign negative (Binary64.ofDecimal? value dropped), rest)
          else if !negative then (int value, rest)
          else if value = 0 || Nat.pow 2 63 < value then
            (withSign true (Binary64.ofFraction? value 1), rest)
          else (int (-value), rest)

/-- A word that must come next. -/
def readWord (word : Text) (value : Document) (t : Text) : Document × Text :=
  if word.isPrefixOf t then (value, t.drop word.length) else (broken, [])

mutual

/-- The first value of a text, and what follows it. -/
def readValue (fuel : Nat) (t : Text) : Document × Text :=
  match fuel with
  | 0 => (broken, [])
  | fuel + 1 =>
    match skip t with
    | [] => (broken, [])
    | '"' :: rest =>
      match readString? rest with
      | none => (broken, [])
      | some (none, rest) => (unusable, rest)
      | some (some s, rest) => (str s, rest)
    | '[' :: rest =>
      match skip rest with
      | ']' :: rest => (arr [] true, rest)
      | rest =>
        let (items, complete, rest) := readItems fuel rest
        (arr items complete, rest)
    | '\x7b' :: rest =>
      match skip rest with
      | '\x7d' :: rest => (obj [] true, rest)
      | rest =>
        let (members, complete, rest) := readMembers fuel rest
        (obj members complete, rest)
    | '-' :: rest => readNumber true rest
    | 'n' :: rest => readWord ['u', 'l', 'l'] null rest
    | 't' :: rest => readWord ['r', 'u', 'e'] (bool true) rest
    | 'f' :: rest => readWord ['a', 'l', 's', 'e'] (bool false) rest
    | c :: rest => if c.isDigit then readNumber false (c :: rest) else (broken, [])

/-- The items of an array from the next one on. -/
def readItems (fuel : Nat) (t : Text) : List Document × Bool × Text :=
  match fuel with
  | 0 => ([], false, [])
  | fuel + 1 =>
    let (item, rest) := readValue fuel t
    match skip rest with
    | ',' :: rest =>
      let (items, complete, rest) := readItems fuel rest
      (item :: items, complete, rest)
    | ']' :: rest => ([item], true, rest)
    | _ => ([item], false, [])

/-- The members of an object from the next one on. -/
def readMembers (fuel : Nat) (t : Text) : List (Option Text × Document) × Bool × Text :=
  match fuel with
  | 0 => ([], false, [])
  | fuel + 1 =>
    match skip t with
    | '"' :: rest =>
      match readString? rest with
      | none => ([], false, [])
      | some (key, rest) =>
        match skip rest with
        | ':' :: rest =>
          let (value, rest) := readValue fuel rest
          match skip rest with
          | ',' :: rest =>
            let (members, complete, rest) := readMembers fuel rest
            ((key, value) :: members, complete, rest)
          | '\x7d' :: rest => ([(key, value)], true, rest)
          | _ => ([(key, value)], false, [])
        | _ => ([(key, broken)], false, [])
    | _ => ([], false, [])

end

/-- Reads a text. The second part says that nothing but blanks follows the value. -/
def read (t : Text) : Document × Bool :=
  let (d, rest) := readValue (2 * t.length + 2) t
  (d, (skip rest).isEmpty)

/-- How deep arrays and objects may stand in one another. -/
def maxNesting : Nat := 127

/-- The value of a document without mistakes that is nested no deeper than `nesting`. -/
def value? : Nat → Document → Option Json
  | _, null => some .null
  | _, bool b => some (.bool b)
  | _, int n => some (.int n)
  | _, float bits => some (.float bits)
  | _, str s => some (.str s)
  | _, unusable => none
  | _, broken => none
  | 0, arr _ _ => none
  | 0, obj _ _ => none
  | nesting + 1, arr items complete =>
    if complete then (items.mapM (value? nesting)).map .arr else none
  | nesting + 1, obj members complete =>
    if complete then
      let member (m : Option Text × Document) : Option (Text × Json) :=
        m.1.bind fun key => (value? nesting m.2).map fun v => (key, v)
      (members.mapM member).map .obj
    else none

mutual

/-- A value as a document without mistakes. -/
def ofJson : Json → Document
  | .null => null
  | .bool b => bool b
  | .int n => int n
  | .float bits => float bits
  | .str s => str s
  | .arr items => arr (ofItems items) true
  | .obj members => obj (ofMembers members) true

def ofItems : List Json → List Document
  | [] => []
  | v :: rest => ofJson v :: ofItems rest

def ofMembers : List (Text × Json) → List (Option Text × Document)
  | [] => []
  | (key, v) :: rest => (some key, ofJson v) :: ofMembers rest

end

end Document

/-- The value of a JSON text; a key that comes again takes the new value in its old place. -/
def Json.read? (t : Text) : Option Json :=
  let (d, atEnd) := Document.read t
  if atEnd then (d.value? Document.maxNesting).map Json.settle else none

end WordingAudit
