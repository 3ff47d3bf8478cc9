import WordingAudit.Config.Basic
import WordingAudit.Rule.Encode

/-!
Writing settings as JSON. Settings without a value and empty lists are left out, except for the
ones that every document states.
-/

namespace WordingAudit

/-- A member for a list, unless the list is empty. -/
def listMember {α : Type} (key : String) (encode : α → Json) (list : List α) :
    List (Text × Json) :=
  if list.isEmpty then [] else [(Text.of key, .arr (list.map encode))]

def LegacyMatch.encode (m : LegacyMatch) : Json :=
  .obj ([(Text.of "regex", .str m.pattern)] ++ memberOf "position" (m.group.map fun n => .int n))

def ProjectSettings.encode (s : ProjectSettings) : Json :=
  .obj (memberOf "extensions" (s.extensions.map fun list => .arr (list.map .str)) ++
    listMember "rules" Rule.encode s.rules ++
    listMember "matches" LegacyMatch.encode s.legacyMatches ++
    listMember "replaces" Substitution.encode s.replaces)

def WordingsSettings.encode (s : WordingsSettings) : Json :=
  .obj (listMember "replaces" Substitution.encode s.replaces)

def Config.encode (c : Config) : Json :=
  .obj (memberOf "projectSourcePath" (c.projectPath.map .str) ++
    memberOf "projectSourceParser" (c.project.map ProjectSettings.encode) ++
    memberOf "wordingsSource" (c.wordingsSource.map .str) ++
    [(Text.of "wordingsSourceParser", c.wordings.encode),
      (Text.of "wildcard", (c.wildcard.map Json.str).getD .null),
      (Text.of "include", .bool c.acceptPart),
      (Text.of "fetchTimeoutSecs", .int c.fetchTimeout)])

end WordingAudit
