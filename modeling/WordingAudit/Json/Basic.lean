import WordingAudit.Text

/-!
JSON values. A number is a whole number of at most 64 bits or a binary floating point number, kept
as its bits; an object keeps its members in the order of the document.
-/

namespace WordingAudit

/-- A JSON value. -/
inductive Json
  | null
  | bool (value : Bool)
  | int (value : Int)
  | float (bits : Nat)
  | str (value : Text)
  | arr (items : List Json)
  | obj (members : List (Text × Json))
deriving Repr, Inhabited

namespace Json

/-- Sets the member with this key: in its place if there is one, else at the end. -/
def put (members : List (Text × Json)) (key : Text) (value : Json) : List (Text × Json) :=
  match members with
  | [] => [(key, value)]
  | (k, v) :: rest => if k = key then (k, value) :: rest else (k, v) :: put rest key value

/-- The members with each key once: at its first place, with its last value. -/
def unique (members : List (Text × Json)) : List (Text × Json) :=
  members.foldl (fun done m => put done m.1 m.2) []

mutual

/-- The value with each key of each object once. -/
def settle : Json → Json
  | arr items => arr (settleItems items)
  | obj members => obj (unique (settleMembers members))
  | v => v

def settleItems : List Json → List Json
  | [] => []
  | v :: rest => settle v :: settleItems rest

def settleMembers : List (Text × Json) → List (Text × Json)
  | [] => []
  | (key, v) :: rest => (key, settle v) :: settleMembers rest

end

/-- The value of the member with this key. -/
def get? (key : Text) : Json → Option Json
  | obj members => members.lookup key
  | _ => none

end Json

end WordingAudit
