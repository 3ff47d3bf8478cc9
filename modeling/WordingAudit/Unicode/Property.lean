import WordingAudit.Unicode.Age
import WordingAudit.Unicode.CaseFolding
import WordingAudit.Unicode.Script
import WordingAudit.Unicode.Segmentation

/-!
Properties of characters by name. Names compare loosely: case, blanks, hyphens and underscores do
not count, and neither does a leading "is".
-/

namespace WordingAudit.Unicode

/-- The form of a name in which two spellings of one name agree. -/
def looseName (name : Text) : String :=
  let body : Text × Bool :=
    match name with
    | i :: s :: rest =>
      if i.toLower = 'i' && s.toLower = 's' then (rest, true) else (name, false)
    | _ => (name, false)
  let kept := body.1.filter fun c => c.toNat < 128 && c != ' ' && c != '_' && c != '-'
  let kept := kept.map Char.toLower
  if body.2 && kept = ['c'] then "isc" else String.ofList kept

/-- The characters that have the property, belong to the category or are of the script called
`name`. Three short names are categories although they also abbreviate properties. -/
def property? (name : Text) : Option CharSet :=
  let loose := looseName name
  let asProperty := if ["cf", "sc", "lc"].contains loose then none else binary? loose
  match asProperty with
  | some set => some set
  | none =>
    match category? loose with
    | some set => some set
    | none => (scriptCode? loose).map ofScript

/-- The characters for which the property called `name` has the value called `value`. -/
def propertyValue? (name value : Text) : Option CharSet :=
  let value := looseName value
  match looseName name with
  | "generalcategory" | "gc" => category? value
  | "script" | "sc" => (scriptCode? value).map ofScript
  | "scriptextensions" | "scx" => (scriptCode? value).map ofScriptExtensions
  | "age" => assignedBy? value
  | "graphemeclusterbreak" | "gcb" => graphemeBreak? value
  | "wordbreak" | "wb" => wordBreak? value
  | "sentencebreak" | "sb" => sentenceBreak? value
  | _ => none

/-- Decimal digits of any script. -/
def digits : CharSet := ofCategories ["Nd"]

/-- The characters of words: letters, marks, decimal digits, connectors and joiners. -/
def wordCharacters : CharSet :=
  CharSet.unionAll [alphabetic, ofCategories ["Mn", "Mc", "Me", "Nd", "Pc"],
    ofLengths joinControlTable]

/-- Letters and numbers of every kind. -/
def alphanumeric : CharSet := alphabetic.union (ofCategories ["Nd", "Nl", "No"])

end WordingAudit.Unicode
