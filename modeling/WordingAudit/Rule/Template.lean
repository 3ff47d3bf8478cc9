import WordingAudit.Pattern.Match

/-!
Replacement texts. A replacement refers to groups by a dollar sign with one or two digits, an
ampersand or a name in angle brackets. It is kept as a template in which a reference is a dollar
sign with braces and a plain dollar sign is written twice.
-/

namespace WordingAudit.Template

/-- A reference to a group: the dollar sign, and the name or number in braces. -/
def reference (name : Text) : Text := ['$', '\x7b'] ++ name ++ ['\x7d']

/-- The value of a digit. -/
def digit? (c : Char) : Option Nat := if c.isDigit then some (c.toNat - 48) else none

/-- The number of a group that one or two digits at the beginning of `t` stand for, two if that
group exists, and how many digits count. -/
def groupDigits? (groups : Nat) (t : Text) : Option (Nat × Nat) :=
  let isGroup (n : Nat) : Bool := 1 ≤ n && n ≤ groups
  match t with
  | [] => none
  | c :: rest =>
    (digit? c).bind fun one =>
      let two := (rest.head?.bind digit?).map fun d => 10 * one + d
      match two.filter isGroup with
      | some n => some (n, 2)
      | none => if isGroup one then some (one, 1) else none

/-- The name of a group in angle brackets at the beginning of `t`, if there is such a group. -/
def groupName? (names : List Text) (t : Text) : Option Text :=
  match t with
  | '<' :: rest =>
    (Text.splitOnce rest '>').bind fun (name, _) => if names.contains name then some name else none
  | _ => none

/-- What a dollar sign and the text after it stand for in a template, and how many characters of
the text belong to it. -/
def afterDollar (groups : Nat) (names : List Text) (t : Text) : Text × Nat :=
  match groupDigits? groups t with
  | some (n, count) => (reference (Text.ofNat n), count)
  | none =>
    match t with
    | '$' :: _ => (['$', '$'], 1)
    | '&' :: _ => (reference ['0'], 1)
    | _ =>
      match groupName? names t with
      | some name => (reference name, name.length + 2)
      | none => (['$', '$'], 0)

/-- The template for a replacement; `skip` characters belong to the reference before. -/
def translate (groups : Nat) (names : List Text) (skip : Nat) : Text → Text
  | [] => []
  | c :: rest =>
    if 0 < skip then translate groups names (skip - 1) rest
    else if c = '$' then
      let (expansion, used) := afterDollar groups names rest
      expansion ++ translate groups names used rest
    else c :: translate groups names 0 rest

/-- The template for a replacement in a pattern's occurrences. No replacement is the empty one. -/
def ofReplacement (p : Pattern) (replacement : Option Text) : Text :=
  match replacement with
  | none => []
  | some t => translate p.groupCount (p.groupNames.filterMap id) 0 t

/-- Whether a character can belong to a reference without braces. -/
def isReferenceCharacter (c : Char) : Bool := c.isAlphanum || c = '_'

/-- The number that a reference is, if it is one. -/
def referenceNumber? (name : Text) : Option Nat :=
  if name.isEmpty || !name.all Char.isDigit then none
  else
    let n := name.foldl (fun n c => 10 * n + (c.toNat - 48)) 0
    if n < Nat.pow 2 32 then some n else none

/-- The text of the group that a reference names; a group that is not there is empty. -/
def groupText (p : Pattern) (m : Pattern.Match) (subject name : Text) : Text :=
  let index :=
    match referenceNumber? name with
    | some n => some n
    | none => p.groupNames.findIdx? (· = some name)
  ((index.bind (m.text? subject)).getD [])

/-- The reference at the beginning of `t`: its name, and how many characters it takes. -/
def readReference? (t : Text) : Option (Text × Nat) :=
  match t with
  | '\x7b' :: rest => (Text.splitOnce rest '\x7d').map fun (name, _) => (name, name.length + 2)
  | _ =>
    let name := t.takeWhile isReferenceCharacter
    if name.isEmpty then none else some (name, name.length)

/-- A template with its references replaced by the groups of an occurrence; `skip` characters
belong to the reference before. -/
def expandFrom (p : Pattern) (m : Pattern.Match) (subject : Text) (skip : Nat) : Text → Text
  | [] => []
  | c :: rest =>
    if 0 < skip then expandFrom p m subject (skip - 1) rest
    else if c = '$' then
      match rest with
      | '$' :: _ => '$' :: expandFrom p m subject 1 rest
      | _ =>
        match readReference? rest with
        | some (name, used) => groupText p m subject name ++ expandFrom p m subject used rest
        | none => '$' :: expandFrom p m subject 0 rest
    else c :: expandFrom p m subject 0 rest

def expand (p : Pattern) (template subject : Text) (m : Pattern.Match) : Text :=
  expandFrom p m subject 0 template

/-- A text with the first occurrence of a pattern replaced by what a template makes of it. -/
def replaceIn (p : Pattern) (template subject : Text) : Text :=
  p.replaceFirst (expand p template subject) subject

end WordingAudit.Template
