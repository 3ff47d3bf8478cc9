import WordingAudit.Json.Document
import WordingAudit.Trace

/-!
The entries of a wordings document. A nested document has one entry for each leaf, under the path
that leads to it; a flat one has one for each member.
-/

namespace WordingAudit

/-- Keys with their values, in ascending order of keys, each key once. -/
abbrev Entries := List (Text × Json)

namespace Entries

/-- Sets the value of a key. -/
def insert (key : Text) (value : Json) : Entries → Entries
  | [] => [(key, value)]
  | (k, v) :: rest =>
    if key < k then (key, value) :: (k, v) :: rest
    else if key = k then (key, value) :: rest
    else (k, v) :: insert key value rest

/-- The entries of a list in which the last value of a key counts. -/
def ofList (pairs : List (Text × Json)) : Entries :=
  pairs.foldl (fun entries p => insert p.1 p.2 entries) []

def keys (entries : Entries) : List Text := entries.map (·.1)

end Entries

namespace Wordings

/-- The path one segment further down. -/
def extendPath (path segment : Text) : Text :=
  if path.isEmpty then segment else path ++ ['.'] ++ segment

mutual

/-- The leaves under a path with their own paths, in the order of the document. An item of an array
has its index for a segment; null and a leaf without a path are no leaves. -/
def leaves (path : Text) : Json → List (Text × Json)
  | .obj members => memberLeaves path members
  | .arr items => itemLeaves path 0 items
  | .null => []
  | leaf => if path.isEmpty then [] else [(path, leaf)]

def memberLeaves (path : Text) : List (Text × Json) → List (Text × Json)
  | [] => []
  | (key, value) :: rest => leaves (extendPath path key) value ++ memberLeaves path rest

def itemLeaves (path : Text) (index : Nat) : List Json → List (Text × Json)
  | [] => []
  | value :: rest =>
    leaves (extendPath path (Text.ofNat index)) value ++ itemLeaves path (index + 1) rest

end

/-- One entry for each leaf; of leaves with the same path the last one counts. -/
def flatten (value : Json) : Entries := Entries.ofList (leaves [] value)

/-- The entries of a document; `source` names it in reports. -/
def entries (format : ResourceFormat) (source : Text) (value : Json) : Traced Entries :=
  match format, value with
  | .nested, value => pure (flatten value)
  | .flat, .obj members => pure (Entries.ofList members)
  | .flat, _ => do
    Traced.report (.notAnObject source)
    return []

end Wordings

end WordingAudit
