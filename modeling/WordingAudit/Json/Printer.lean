import WordingAudit.Json.Basic
import WordingAudit.Json.Shortest

/-!
Writing JSON values without blanks.
-/

namespace WordingAudit.Json

/-- A hexadecimal number of four digits. -/
def fourDigits (n : Nat) : Text :=
  let digits := Nat.toDigits 16 n
  List.replicate (4 - digits.length) '0' ++ digits

/-- A character as it stands in a string. -/
def encodeChar (c : Char) : Text :=
  match c with
  | '"' => ['\\', '"']
  | '\\' => ['\\', '\\']
  | '\n' => ['\\', 'n']
  | '\r' => ['\\', 'r']
  | '\t' => ['\\', 't']
  | '\x08' => ['\\', 'b']
  | '\x0C' => ['\\', 'f']
  | _ => if c.toNat < 32 then ['\\', 'u'] ++ fourDigits c.toNat else [c]

def renderText (t : Text) : Text := ['"'] ++ t.flatMap encodeChar ++ ['"']

def renderInt (n : Int) : Text :=
  if n < 0 then '-' :: Text.ofNat n.natAbs else Text.ofNat n.natAbs

mutual

/-- The text of a value. -/
def render : Json → Text
  | null => Text.of "null"
  | bool b => Text.of (if b then "true" else "false")
  | int n => renderInt n
  | float bits => Binary64.toText bits
  | str s => renderText s
  | arr items => ['['] ++ renderItems items ++ [']']
  | obj members => ['\x7b'] ++ renderMembers members ++ ['\x7d']

def renderItems : List Json → Text
  | [] => []
  | [v] => render v
  | v :: rest => render v ++ [','] ++ renderItems rest

def renderMembers : List (Text × Json) → Text
  | [] => []
  | [(key, v)] => renderText key ++ [':'] ++ render v
  | (key, v) :: rest => renderText key ++ [':'] ++ render v ++ [','] ++ renderMembers rest

end

end WordingAudit.Json
