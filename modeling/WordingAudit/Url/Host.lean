import WordingAudit.Url.Encoding
import WordingAudit.Url.Punycode

/-!
Hosts: names, and addresses of version 4 and 6 in their shortest form.
-/

namespace WordingAudit.Url

/-- The value of digits in a base of at most 16. -/
def digitsValue? (base : Nat) (t : Text) : Option Nat :=
  t.foldlM (fun n c => (hexValue? c).bind fun d => if d < base then some (base * n + d) else none) 0

/-- The value of a part of an address: decimal, octal after a zero, hexadecimal after `0x`. -/
def partValue? : Text → Option Nat
  | [] => none
  | '0' :: 'x' :: rest => digitsValue? 16 rest
  | '0' :: 'X' :: rest => digitsValue? 16 rest
  | '0' :: rest => digitsValue? 8 rest
  | t => digitsValue? 10 t

/-- The parts of a name; a dot at the end does not count. -/
def nameParts (t : Text) : List Text :=
  let parts := Text.splitAll t '.'
  if parts.length ≥ 2 ∧ parts.getLast? = some [] then parts.dropLast else parts

/-- Whether a name must be an address because its last part is a number. -/
def endsInNumber (t : Text) : Bool :=
  match (nameParts t).getLast? with
  | none => false
  | some last =>
    !last.isEmpty &&
      (last.all Char.isDigit || (last.take 2 = ['0', 'x'] && (partValue? last).isSome))

/-- The number of an address of up to four parts; the last part fills what is left. -/
def addressNumber? : List Nat → Option Nat
  | [] => none
  | parts =>
    let leading := parts.dropLast
    let last := (parts.getLast?).getD 0
    if 4 < parts.length ∨ (leading.any fun n => 255 < n) ∨
        Nat.pow 256 (5 - parts.length) ≤ last then none
    else some (leading.zipIdx.foldl (fun n p => n + p.1 * Nat.pow 256 (3 - p.2)) last)

/-- The four parts of an address with dots between them. -/
def addressText (n : Nat) : Text :=
  Text.join ['.'] ([3, 2, 1, 0].map fun k => Text.ofNat (n / Nat.pow 256 k % 256))

/-- An address of version 4 in its usual form. -/
def address? (t : Text) : Option Text := do
  let parts ← (nameParts t).mapM partValue?
  (addressNumber? parts).map addressText

/-- Groups of an address of version 6, the last ones perhaps as an address of version 4. -/
def groups? : List Text → Option (List Nat)
  | [] => some []
  | [t] =>
    if '.' ∈ t then
      let parts := Text.splitAll t '.'
      if parts.length = 4 ∧ (parts.all fun p => p = ['0'] || p.head? != some '0') then do
        let values ← parts.mapM fun p => if p.isEmpty then none else digitsValue? 10 p
        if values.any fun n => 255 < n then none
        else some [values.getD 0 0 * 256 + values.getD 1 0, values.getD 2 0 * 256 + values.getD 3 0]
      else none
    else if t.isEmpty || 4 < t.length then none
    else (digitsValue? 16 t).map fun n => [n]
  | t :: rest =>
    if t.isEmpty || 4 < t.length then none
    else do
      let n ← digitsValue? 16 t
      let others ← groups? rest
      return n :: others

/-- The groups of a text that may be empty. -/
def groupsOf? (t : Text) : Option (List Nat) :=
  if t.isEmpty then some [] else groups? (Text.splitAll t ':')

/-- What stands before and after the first pair of colons. -/
def splitGap : Text → Option (Text × Text)
  | ':' :: ':' :: rest => some ([], rest)
  | c :: rest => (splitGap rest).map fun (a, b) => (c :: a, b)
  | [] => none

/-- The eight groups of an address of version 6; a pair of colons stands for zeros. -/
def eightGroups? (t : Text) : Option (List Nat) :=
  match splitGap t with
  | none => (groupsOf? t).filter fun groups => groups.length = 8
  | some (before, after) => do
    if '.' ∈ before then none
    else
      let head ← groupsOf? before
      let tail ← groupsOf? after
      if head.length + tail.length < 8 then
        return head ++ List.replicate (8 - head.length - tail.length) 0 ++ tail
      else none

/-- The start and length of the first longest run of zeros among the groups from `index` on. -/
def longestZeros (index : Nat) (groups : List Nat) : Nat × Nat :=
  match groups with
  | [] => (index, 0)
  | g :: rest =>
    let here := ((g :: rest).takeWhile (· = 0)).length
    let (start, length) := longestZeros (index + 1) rest
    if length ≤ here then (index, here) else (start, length)

def groupsText (groups : List Nat) : Text :=
  Text.join [':'] (groups.map fun n => Nat.toDigits 16 n)

/-- Eight groups with the longest run of zeros, if it is longer than one, left out. -/
def sixText (groups : List Nat) : Text :=
  let (start, length) := longestZeros 0 groups
  if length ≤ 1 then groupsText groups
  else groupsText (groups.take start) ++ [':', ':'] ++ groupsText (groups.drop (start + length))

/-- A character that no host name holds. -/
def isForbidden (c : Char) : Bool :=
  c.toNat ≤ 32 || c.toNat = 127 ||
    ['"', '#', '%', '/', ':', '<', '>', '?', '@', '[', '\\', ']', '^', '`', '\x7b', '|',
      '\x7d'].contains c

/-- A label of a host name in ASCII. -/
def asciiLabel (label : Text) : Text :=
  if label.all fun c => c.toNat < 128 then label else Text.of "xn--" ++ Punycode.encode label

/-- A host as a URL states it. -/
def host? (t : Text) : Option Text :=
  match t with
  | '[' :: rest =>
    if rest.getLast? = some ']' then
      (eightGroups? rest.dropLast).map fun groups => ['['] ++ sixText groups ++ [']']
    else none
  | _ => do
    let decoded ← Utf8.decode? (percentDecode t)
    let lowered := decoded.map Char.toLower
    let name := Text.join ['.'] ((Text.splitAll lowered '.').map asciiLabel)
    if name.isEmpty || name.any isForbidden then none
    else if endsInNumber name then address? name
    else some name

end WordingAudit.Url
