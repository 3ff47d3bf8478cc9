import WordingAudit.Url.Host

/-!
Web addresses in the form in which they are requested: no user, no number of a
default service, no dot segments, and nothing that has to be encoded left as it is.
-/

namespace WordingAudit

/-- A web address. -/
structure Url where
  secure : Bool
  host : Text
  service : Option Nat
  path : Text
  query : Option Text
  fragment : Option Text
deriving DecidableEq, Repr

namespace Url

/-- The number of the service when none is given. -/
def defaultService (secure : Bool) : Nat := if secure then 443 else 80

/-- What a request asks for. -/
def target (u : Url) : Text :=
  u.path ++ match u.query with
    | some q => '?' :: q
    | none => []

/-- The whole address. -/
def text (u : Url) : Text :=
  Text.of (if u.secure then "https://" else "http://") ++ u.host ++
    (match u.service with
      | some n => ':' :: Text.ofNat n
      | none => []) ++
    u.target ++
    match u.fragment with
    | some f => '#' :: f
    | none => []

def isSlash (c : Char) : Bool := c = '/' || c = '\\'

/-- The text without tabs and line ends, and without controls and blanks around it. -/
def clean (t : Text) : Text :=
  let outer (c : Char) : Bool := c.toNat ≤ 32
  let trimmed := ((t.dropWhile outer).reverse.dropWhile outer).reverse
  trimmed.filter fun c => !(c = '\t' || c = '\n' || c = '\r')

/-- The part up to the end of the host and its service, and the rest. -/
def splitAuthority (t : Text) : Text × Text :=
  let ends (c : Char) : Bool := isSlash c || c = '?' || c = '#'
  (t.takeWhile fun c => !ends c, t.dropWhile fun c => !ends c)

/-- What follows the last at sign. -/
def dropUser (authority : Text) : Text :=
  (authority.reverse.takeWhile fun c => c != '@').reverse

/-- The host and what follows its colon, if there is one; colons in brackets do not count. -/
def splitService (inBrackets : Bool) : Text → Text × Option Text
  | [] => ([], none)
  | c :: rest =>
    if c = ':' ∧ !inBrackets then ([], some rest)
    else
      let inBrackets := c = '[' || (inBrackets && c != ']')
      let (host, service) := splitService inBrackets rest
      (c :: host, service)

/-- The service, if it is not the default one; nothing at all if it is no number of one. -/
def service? (secure : Bool) : Option Text → Option (Option Nat)
  | none => some none
  | some [] => some none
  | some t =>
    if !t.all Char.isDigit then none
    else
      let n := t.foldl (fun n c => 10 * n + (c.toNat - 48)) 0
      if 65535 < n then none
      else some (if n = defaultService secure then none else some n)

/-- A segment that stands for the same directory. -/
def isDot (s : Text) : Bool := s = ['.'] || s.map Char.toLower = Text.of "%2e"

/-- A segment that stands for the directory above. -/
def isDoubleDot (s : Text) : Bool :=
  s = Text.of ".." ||
    [Text.of ".%2e", Text.of "%2e.", Text.of "%2e%2e"].contains (s.map Char.toLower)

/-- The segments with dot segments carried out; `done` holds those before, last first. -/
def walkSegments (done : List Text) : List Text → List Text
  | [] => done.reverse
  | [s] =>
    if isDoubleDot s then ([] :: done.tail).reverse
    else if isDot s then ([] :: done).reverse
    else (s :: done).reverse
  | s :: rest =>
    if isDoubleDot s then walkSegments done.tail rest
    else if isDot s then walkSegments done rest
    else walkSegments (s :: done) rest

/-- The path that a text stands for: nothing, or a slash with what follows it. -/
def pathOf (t : Text) : Text :=
  let written := t.map fun c => if c = '\\' then '/' else c
  let segments := Text.splitAll (written.drop 1) '/'
  '/' :: Text.join ['/'] ((walkSegments [] segments).map (percentEncode inPath))

/-- What stands before the first `c` and, if there is one, after it. -/
def cut (t : Text) (c : Char) : Text × Option Text :=
  match Text.splitOnce t c with
  | none => (t, none)
  | some (a, b) => (a, some b)

/-- The address that a text beginning with `http:` or `https:` stands for. -/
def ofText? (source : Text) : Option Url := do
  let cleaned := clean source
  let (scheme, rest) ← Text.splitOnce cleaned ':'
  let secure := scheme.map Char.toLower = Text.of "https"
  let (authority, rest) := splitAuthority (rest.dropWhile isSlash)
  let (name, number) := splitService false (dropUser authority)
  let host ← host? name
  let service ← service? secure number
  let (rest, fragment) := cut rest '#'
  let (path, query) := cut rest '?'
  return {
    secure, host, service
    path := pathOf path
    query := query.map (percentEncode inQuery)
    fragment := fragment.map (percentEncode inFragment) }

end Url

end WordingAudit
