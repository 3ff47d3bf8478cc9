import WordingAudit.Unicode.Binary

/-!
Text between double quotes: quotes, backslashes and characters that cannot be seen are written as
escapes.
-/

namespace WordingAudit.Quoted

/-- The lower-case hexadecimal digits of `n`. -/
def hexDigits (n : Nat) : Text := Nat.toDigits 16 n

/-- Characters beyond ASCII that are written by their code: controls, formats, private and
unassigned ones, separators, and marks that extend the character before. -/
def hidden : CharSet :=
  (Unicode.ofCategories ["Cc", "Cf", "Cs", "Co", "Cn", "Zl", "Zp", "Zs"]).union
    Unicode.graphemeExtend

def isHidden (c : Char) : Bool :=
  if c.toNat < 128 then c.toNat < 32 || c.toNat = 127 else hidden.contains c

/-- A character as it stands between quotes. -/
def encodeChar (c : Char) : Text :=
  match c with
  | '"' => ['\\', '"']
  | '\\' => ['\\', '\\']
  | '\n' => ['\\', 'n']
  | '\r' => ['\\', 'r']
  | '\t' => ['\\', 't']
  | '\x00' => ['\\', '0']
  | _ =>
    if isHidden c then ['\\', 'u', '\x7b'] ++ hexDigits c.toNat ++ ['\x7d'] else [c]

def encode (t : Text) : Text := ['"'] ++ t.flatMap encodeChar ++ ['"']

/-- A path between double quotes; apostrophes are escaped as well. -/
def encodePath (t : Text) : Text :=
  ['"'] ++ (t.flatMap fun c => if c = '\'' then ['\\', '\''] else encodeChar c) ++ ['"']

end WordingAudit.Quoted
