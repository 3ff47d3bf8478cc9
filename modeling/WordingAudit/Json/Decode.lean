import WordingAudit.Json.Document
import WordingAudit.Json.Shortest
import WordingAudit.Text.Quoted

/-!
Taking a document apart into records. A record is written as an object with named fields or as an
array of its fields in order; fields may have further spellings, and unknown ones are ignored.
The first problem in the order of the text is the one reported.
-/

namespace WordingAudit

/-- Why a document does not hold what it should. -/
inductive DecodeError
  /-- The text is not JSON. -/
  | malformed
  /-- An array that stands for a record holds more items than the record has fields. -/
  | surplus (count : Nat)
  | missingField (name : Text)
  | duplicateField (name : Text)
  | unknownVariant (given : Text) (known : List Text)
  | invalidType (found wanted : Text)
  | invalidValue (found wanted : Text)
  | invalidLength (count : Nat) (wanted : Text)
deriving DecidableEq, Repr

namespace DecodeError

def backquoted (t : Text) : Text := ['`'] ++ t ++ ['`']

/-- What the error says; a text that is not JSON has no details. -/
def message : DecodeError → Text
  | malformed => Text.of "malformed"
  | surplus count => Text.of "invalid length " ++ Text.ofNat count ++
      Text.of ", expected fewer elements in array"
  | missingField name => Text.of "missing field " ++ backquoted name
  | duplicateField name => Text.of "duplicate field " ++ backquoted name
  | unknownVariant given known => Text.of "unknown variant " ++ backquoted given ++
      Text.of ", expected one of " ++ Text.join (Text.of ", ") (known.map backquoted)
  | invalidType found wanted => Text.of "invalid type: " ++ found ++ Text.of ", expected " ++ wanted
  | invalidValue found wanted =>
      Text.of "invalid value: " ++ found ++ Text.of ", expected " ++ wanted
  | invalidLength count wanted => Text.of "invalid length " ++ Text.ofNat count ++
      Text.of ", expected " ++ wanted

end DecodeError

/-- The result of decoding. -/
abbrev Decoded := Except DecodeError

namespace Document

/-- The decimal text of a whole number. -/
def intText (n : Int) : Text := if n < 0 then '-' :: Text.ofNat n.natAbs else Text.ofNat n.natAbs

/-- How a value is named in an error. -/
def describe : Document → Text
  | null => Text.of "null"
  | bool b => Text.of (if b then "boolean `true`" else "boolean `false`")
  | int n => Text.of "integer " ++ DecodeError.backquoted (intText n)
  | float bits => Text.of "floating point " ++ DecodeError.backquoted (Binary64.toText bits)
  | str s => Text.of "string " ++ Quoted.encode s
  | arr _ _ => Text.of "sequence"
  | obj _ _ => Text.of "map"
  | unusable => []
  | broken => []

/-- The error for a value of the wrong type. -/
def mistyped {α : Type} (d : Document) (wanted : Text) : Decoded α :=
  match d with
  | unusable => .error .malformed
  | broken => .error .malformed
  | d => .error (.invalidType d.describe wanted)

def text (wanted : Text) (d : Document) : Decoded Text :=
  match d with
  | str s => .ok s
  | d => d.mistyped wanted

def boolean (d : Document) : Decoded Bool :=
  match d with
  | bool b => .ok b
  | d => d.mistyped (Text.of "a boolean")

/-- A whole number that is not negative. -/
def natural (wanted : Text) (d : Document) : Decoded Nat :=
  match d with
  | int n => if n < 0 then .error (.invalidValue d.describe wanted) else .ok n.toNat
  | d => d.mistyped wanted

/-- A value or null. -/
def optional {α : Type} (read : Document → Decoded α) (d : Document) : Decoded (Option α) :=
  match d with
  | null => .ok none
  | d => (read d).map some

/-- The items of an array; `nesting` bounds how deep the items may be nested. -/
def list {α : Type} (read : Nat → Document → Decoded α) (nesting : Nat) (d : Document) :
    Decoded (List α) :=
  match nesting, d with
  | 0, arr _ _ => .error .malformed
  | nesting + 1, arr items complete => do
    let values ← items.mapM (read nesting)
    if complete then .ok values else .error .malformed
  | _, d => d.mistyped (Text.of "a sequence")

end Document

/-- What a JSON text stands for. Only a text that is correct so far is refused for what follows. -/
def decodeText {α : Type} (read : Nat → Document → Decoded α) (t : Text) : Decoded α := do
  let (d, atEnd) := Document.read t
  let value ← read Document.maxNesting d
  if atEnd then .ok value else .error .malformed

/-- What a JSON value stands for. -/
def decodeJson {α : Type} (read : Nat → Document → Decoded α) (value : Json) : Decoded α :=
  read Document.maxNesting (Document.ofJson value)

/-- A field of a record: its name and all its spellings, and how its value is put into the record
under construction. The nesting that is left comes with the value. -/
structure Field (σ : Type) where
  name : Text
  spellings : List Text
  put : Nat → Document → σ → Decoded σ

/-- A record: how errors name it, its fields in order, and the record before any field is set.
`finish` gives nothing while the first field, the only one that can be required, is missing. -/
structure Record (σ α : Type) where
  title : Text
  fields : List (Field σ)
  initial : σ
  finish : σ → Option α
  /-- The error for an array with too many items, by their number. -/
  surplus : Nat → DecodeError := DecodeError.surplus

namespace Record

variable {σ α : Type}

/-- The members of an object, one after the other; `seen` holds the names of the fields met. -/
def putMembers (r : Record σ α) (nesting : Nat) (seen : List Text) (state : σ) :
    List (Option Text × Document) → Decoded σ
  | [] => .ok state
  | (none, _) :: _ => .error .malformed
  | (some key, d) :: rest =>
    match r.fields.find? fun field => field.spellings.contains key with
    | none => r.putMembers nesting seen state rest
    | some field =>
      if seen.contains field.name then .error (.duplicateField field.name)
      else do
        let state ← field.put nesting d state
        r.putMembers nesting (field.name :: seen) state rest

/-- The items of an array for the fields in order. -/
def putItems (nesting : Nat) (state : σ) : List (Field σ) → List Document → Decoded σ
  | field :: fields, d :: rest => do
    let state ← field.put nesting d state
    putItems nesting state fields rest
  | _, _ => .ok state

/-- How an array of this record is described when it is too short. -/
def arrayTitle (r : Record σ α) : Text :=
  r.title ++ Text.of " with " ++ Text.ofNat r.fields.length ++ Text.of " elements"

/-- The record whose members these are. -/
def ofMembers (r : Record σ α) (nesting : Nat) (members : List (Option Text × Document))
    (complete : Bool) : Decoded α := do
  let state ← r.putMembers nesting [] r.initial members
  if !complete then .error .malformed
  else
    match r.finish state with
    | some value => .ok value
    | none => .error (.missingField ((r.fields.head?.map (·.name)).getD []))

/-- The record whose fields these are, in order. -/
def ofItems (r : Record σ α) (nesting : Nat) (items : List Document) (complete : Bool) :
    Decoded α := do
  let state ← putItems nesting r.initial r.fields items
  if items.length < r.fields.length && !complete then .error .malformed
  else
    match r.finish state with
    | none => .error (.invalidLength 0 r.arrayTitle)
    | some value =>
      if r.fields.length < items.length then .error (r.surplus items.length)
      else if !complete then .error .malformed
      else .ok value

/-- The record that a document stands for. -/
def decode (r : Record σ α) (nesting : Nat) (d : Document) : Decoded α :=
  match nesting, d with
  | 0, .arr _ _ => .error .malformed
  | 0, .obj _ _ => .error .malformed
  | nesting + 1, .arr items complete => r.ofItems nesting items complete
  | nesting + 1, .obj members complete => r.ofMembers nesting members complete
  | _, d => d.mistyped r.title

end Record

end WordingAudit
