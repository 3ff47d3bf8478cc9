import WordingAudit.Error
import WordingAudit.Files.Path
import WordingAudit.Text.Utf8

/-!
A tree of files, directories and symbolic links, and what a path leads to in it. Links are
followed wherever a path meets one, also at its end. A tree holds no rights: every file in it can be
read and every directory listed.
-/

namespace WordingAudit

/-- What stands at a place of a tree. -/
inductive Node
  | file (content : List UInt8)
  | link (target : Text)
  | directory (entries : List (Text × Node))
deriving Inhabited

namespace Node

def isDirectory : Node → Bool
  | directory _ => true
  | _ => false

/-- A directory with nothing in it. -/
def empty : Node := directory []

/-- Puts a node at a place; directories on the way are made, and one that is there already stays. -/
def put (node : Node) : List Text → Node → Node
  | [], here =>
    match node, here with
    | directory [], directory entries => directory entries
    | node, _ => node
  | name :: rest, here =>
    let entries := match here with
      | directory entries => entries
      | _ => []
    let child := (entries.lookup name).getD empty
    directory ((entries.filter fun e => e.1 != name) ++ [(name, put node rest child)])

end Node

/-- A tree, and the names that lead from its top to the directory in which work is done. -/
structure FileTree where
  top : Node
  workingDirectory : List Text

namespace FileTree

/-- How many links may be followed on one path. -/
def maxLinks : Nat := 40

/-- The names of a path. One that ends in a slash ends in a dot, which asks for a directory. -/
def steps (path : Text) : List Text :=
  let names := (Text.splitAll path '/').filter fun s => !s.isEmpty
  if Text.endsWith path ['/'] then names ++ [['.']] else names

/-- A place in a tree: the node that stands there and the directories above it. -/
structure Place where
  node : Node
  above : List Node

namespace Place

/-- The place one directory up; the top is above itself. -/
def up (p : Place) : Place :=
  match p.above with
  | [] => p
  | d :: rest => ⟨d, rest⟩

/-- The node with a name in a directory. -/
def child? (p : Place) (name : Text) : Except FileProblem Node :=
  match p.node with
  | .directory entries => (entries.lookup name).elim (.error .notFound) .ok
  | _ => .error .notDirectory

end Place

/-- The place that names lead to. A link is left to `onLink`, with the directory it stands in, its
target and the names after it. -/
def followNames (onLink : Place → Text → List Text → Except FileProblem Place) (p : Place) :
    List Text → Except FileProblem Place
  | [] => .ok p
  | name :: rest =>
    if !p.node.isDirectory then .error .notDirectory
    else if name = ['.'] then followNames onLink p rest
    else if name = Text.of ".." then followNames onLink p.up rest
    else
      match p.child? name with
      | .error e => .error e
      | .ok (.link target) => onLink p target rest
      | .ok node => followNames onLink ⟨node, p.node :: p.above⟩ rest

/-- The place that names lead to; `links` is how many links may still be followed. -/
def follow (top : Node) (links : Nat) (p : Place) (names : List Text) :
    Except FileProblem Place :=
  match links with
  | 0 => followNames (fun _ _ _ => .error .tooManyLinks) p names
  | links + 1 =>
    followNames (fun p target rest =>
      if target.isEmpty then .error .notFound
      else
        follow top links (if Path.isAbsolute target then ⟨top, []⟩ else p)
          (steps target ++ rest)) p names

/-- The place where work is done. -/
def home (t : FileTree) : Except FileProblem Place :=
  follow t.top maxLinks ⟨t.top, []⟩ t.workingDirectory

/-- What a path leads to. -/
def find (t : FileTree) (path : Text) : Except FileProblem Node :=
  if path.isEmpty then .error .notFound
  else do
    let start ← if Path.isAbsolute path then .ok ⟨t.top, []⟩ else t.home
    let place ← follow t.top maxLinks start (steps path)
    return place.node

/-- The content of the file that a path leads to. -/
def read (t : FileTree) (path : Text) : Except FileProblem (List UInt8) := do
  match ← t.find path with
  | .file content => return content
  | .link _ => .error .tooManyLinks
  | .directory _ => .error .isDirectory

/-- The content of a file that must be text. -/
def readText (t : FileTree) (path : Text) : Except FileProblem Text := do
  let content ← t.read path
  (Utf8.decode? content).elim (.error .notText) .ok

end FileTree

end WordingAudit
