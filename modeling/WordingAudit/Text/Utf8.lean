import WordingAudit.Text

/-!
Text as UTF-8 octets. Octets that are no text can be refused or stand for one replacement
character per longest beginning of a character.
-/

namespace WordingAudit.Utf8

/-- The octets of one character. -/
def encodeChar (c : Char) : List UInt8 :=
  let n := c.toNat
  let tail (k : Nat) : UInt8 := UInt8.ofNat (0x80 + (n / Nat.pow 64 k) % 64)
  if n < 0x80 then [UInt8.ofNat n]
  else if n < 0x800 then [UInt8.ofNat (0xC0 + n / 64), tail 0]
  else if n < 0x10000 then [UInt8.ofNat (0xE0 + n / Nat.pow 64 2), tail 1, tail 0]
  else [UInt8.ofNat (0xF0 + n / Nat.pow 64 3), tail 2, tail 1, tail 0]

def encode (t : Text) : List UInt8 := t.flatMap encodeChar

/-- What the first octet of a longer character says: how many octets follow, the bounds of the
next one, and the bits it brings itself. -/
def lead? (b : Nat) : Option (Nat × Nat × Nat × Nat) :=
  if b < 0xC2 then none
  else if b < 0xE0 then some (1, 0x80, 0xBF, b - 0xC0)
  else if b = 0xE0 then some (2, 0xA0, 0xBF, 0)
  else if b = 0xED then some (2, 0x80, 0x9F, 0xD)
  else if b < 0xF0 then some (2, 0x80, 0xBF, b - 0xE0)
  else if b = 0xF0 then some (3, 0x90, 0xBF, 0)
  else if b < 0xF4 then some (3, 0x80, 0xBF, b - 0xF0)
  else if b = 0xF4 then some (3, 0x80, 0x8F, 4)
  else none

/-- The octets that are still owed: the character, or nothing at the first that does not fit. -/
def readTail (low high value : Nat) : Nat → List UInt8 → Option Char × List UInt8
  | 0, rest => (some (Char.ofNat value), rest)
  | _ + 1, [] => (none, [])
  | owed + 1, b :: rest =>
    if low ≤ b.toNat ∧ b.toNat ≤ high then
      readTail 0x80 0xBF (64 * value + (b.toNat - 0x80)) owed rest
    else (none, b :: rest)

/-- The first character, or nothing in place of a beginning of one, and the octets after it. -/
def readChar (b : UInt8) (rest : List UInt8) : Option Char × List UInt8 :=
  if b.toNat < 0x80 then (some (Char.ofNat b.toNat), rest)
  else
    match lead? b.toNat with
    | none => (none, rest)
    | some (owed, low, high, value) => readTail low high value owed rest

/-- Characters and gaps in order; `fuel` is at least the number of octets. -/
def readAll : Nat → List UInt8 → List (Option Char)
  | fuel + 1, b :: rest =>
    let (c, rest) := readChar b rest
    c :: readAll fuel rest
  | _, _ => []

/-- The text, with a replacement character in place of each gap. -/
def decodeLossy (bytes : List UInt8) : Text :=
  (readAll bytes.length bytes).map (·.getD '\uFFFD')

/-- The text, if there is no gap. -/
def decode? (bytes : List UInt8) : Option Text := (readAll bytes.length bytes).mapM id

end WordingAudit.Utf8
