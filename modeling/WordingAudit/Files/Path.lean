import WordingAudit.Text

/-!
Paths as text. Names stand between slashes; a path that begins with a slash does not depend on
where it is read from.
-/

namespace WordingAudit.Path

def isAbsolute (path : Text) : Bool := Text.startsWith path ['/']

/-- A path taken relative to a directory. -/
def join (base path : Text) : Text :=
  if isAbsolute path then path
  else if base.isEmpty || Text.endsWith base ['/'] then base ++ path
  else base ++ ['/'] ++ path

/-- A segment that leads nowhere: an empty one or a dot. -/
def isIdle (segment : Text) : Bool := segment.isEmpty || segment = ['.']

/-- The part of a path in front of its segments: the root, or a dot that stands for itself. -/
def anchor (path : Text) : Text :=
  match path with
  | '/' :: _ => ['/']
  | ['.'] => ['.']
  | '.' :: '/' :: _ => ['.']
  | _ => []

/-- The segments without the idle ones at the end. -/
def trimIdle (segments : List Text) : List Text := (segments.reverse.dropWhile isIdle).reverse

/-- The directory that a path stands in, as it is written in the path; empty if there is none. -/
def parent (path : Text) : Text :=
  let segments := trimIdle (Text.splitAll (path.drop (anchor path).length) '/')
  if segments.isEmpty then []
  else anchor path ++ Text.join ['/'] (trimIdle segments.dropLast)

/-- The segments of a path that lead somewhere. -/
def segments (path : Text) : List Text :=
  (Text.splitAll path '/').filter fun s => !isIdle s

end WordingAudit.Path
