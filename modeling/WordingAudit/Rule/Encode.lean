import WordingAudit.Json.Basic
import WordingAudit.Rule.Decode

/-!
Writing rules and substitutions as JSON. Fields without a value are left out.
-/

namespace WordingAudit

/-- A member, if there is a value for it. -/
def memberOf (key : String) (value : Option Json) : List (Text × Json) :=
  match value with
  | some v => [(Text.of key, v)]
  | none => []

namespace Substitution

def encode (s : Substitution) : Json :=
  .obj ([(Text.of "pattern", .str s.pattern)] ++ memberOf "replacement" (s.replacement.map .str))

end Substitution

namespace Rule

/-- The members of a step's object, those of its own fields. -/
def stepMembers : Step → List (Text × Json)
  | .extract p group =>
    [(typeKey, .str StepKind.extract.name), (Text.of "pattern", .str p)] ++
      memberOf "captureIndex" (group.map fun n => .int n)
  | .replace p replacement =>
    [(typeKey, .str StepKind.replace.name), (Text.of "pattern", .str p)] ++
      memberOf "replacement" (replacement.map .str)
  | .ignore p => [(typeKey, .str StepKind.ignore.name), (Text.of "pattern", .str p)]

/-- A step with the steps after it inside. -/
def encodeChain (s : Step) : List Step → Json
  | [] => .obj (stepMembers s)
  | next :: rest => .obj (stepMembers s ++ [(Text.of "next", encodeChain next rest)])

def encode (r : Rule) : Json := encodeChain r.first r.further

end Rule

end WordingAudit
