import WordingAudit.Text.Utf8

/-!
Percent-encoding: an octet as a percent sign and two hexadecimal digits.
-/

namespace WordingAudit.Url

/-- A hexadecimal digit, letters in upper case. -/
def hexChar (n : Nat) : Char := (Nat.digitChar n).toUpper

/-- The value of a hexadecimal digit. -/
def hexValue? (c : Char) : Option Nat :=
  if c.isDigit then some (c.toNat - 48)
  else if 'a' ≤ c.toLower ∧ c.toLower ≤ 'f' then some (c.toLower.toNat - 87)
  else none

def encodeOctet (b : UInt8) : Text := ['%', hexChar (b.toNat / 16), hexChar (b.toNat % 16)]

/-- The text with every character that must not stand for itself encoded. -/
def percentEncode (mustEncode : Char → Bool) (t : Text) : Text :=
  t.flatMap fun c => if mustEncode c then (Utf8.encodeChar c).flatMap encodeOctet else [c]

/-- The octets of a text with the encoded ones decoded; a lone percent sign stands for itself. -/
def percentDecode : Text → List UInt8
  | '%' :: a :: b :: rest =>
    match hexValue? a, hexValue? b with
    | some high, some low => UInt8.ofNat (16 * high + low) :: percentDecode rest
    | _, _ => 0x25 :: percentDecode (a :: b :: rest)
  | c :: rest => Utf8.encodeChar c ++ percentDecode rest
  | [] => []

/-- A control character, or one outside of the ASCII range. -/
def isControl (c : Char) : Bool := c.toNat < 32 || 126 < c.toNat

def inFragment (c : Char) : Bool := isControl c || [' ', '"', '<', '>', '`'].contains c

def inQuery (c : Char) : Bool := isControl c || [' ', '"', '#', '<', '>', '\''].contains c

def inPath (c : Char) : Bool := inFragment c || ['#', '?', '\x7b', '\x7d'].contains c

end WordingAudit.Url
