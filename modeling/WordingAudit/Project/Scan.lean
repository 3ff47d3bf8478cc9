import WordingAudit.Config.Basic
import WordingAudit.Rule.Extraction
import WordingAudit.World

/-!
Finding the keys in the files of a project. The tree is walked in the order of names, directories
before their entries; names decide what is entered, left out or read. A directory that is entered
can always be listed, so a walk fails at its root only.
-/

namespace WordingAudit

/-- An entry met on a walk. Links are entries of their own and no directories. -/
structure WalkEntry where
  path : Text
  name : Text
  isDirectory : Bool
deriving DecidableEq, Repr

namespace WalkEntry

/-- What is done with an entry. -/
inductive Verdict
  | enter
  | skip (reason : SkipReason)
  | read
deriving DecidableEq, Repr

def verdict (selector : FileSelector) (e : WalkEntry) : Verdict :=
  match NameShape.ofName e.name with
  | .directory => if e.isDirectory then .enter else .skip .plainName
  | .multiDot => .skip .dottedName
  | .file extension =>
    if e.isDirectory then .skip .dottedDirectory
    else if selector.accepts extension then .read
    else .skip (.otherExtension extension)

end WalkEntry

/-- Puts a named value in its place among others in the order of their names. -/
def insertNamed {α : Type} (e : Text × α) : List (Text × α) → List (Text × α)
  | [] => [e]
  | other :: rest => if other.1 < e.1 then other :: insertNamed e rest else e :: other :: rest

/-- Named values in the order of their names; those of one name stay in the order they are in. -/
def inNameOrder {α : Type} (entries : List (Text × α)) : List (Text × α) :=
  entries.foldr insertNamed []

namespace Node

mutual

/-- The entries below a directory at a path. Only directories with a dotless name are entered. -/
def walk (path : Text) : Node → List WalkEntry
  | directory entries => (inNameOrder (walkEntries path entries)).flatMap (·.2)
  | _ => []

/-- Each name with its own entry and what is met below it. -/
def walkEntries (path : Text) : List (Text × Node) → List (Text × List WalkEntry)
  | [] => []
  | (name, node) :: rest =>
    let here := Path.join path name
    let below := if NameShape.ofName name = .directory then walk here node else []
    (name, ⟨here, name, node.isDirectory⟩ :: below) :: walkEntries path rest

end

end Node

/-- What a scan has found: keys in the order they were met, and how many files were read and left
out. -/
structure ScanOutcome where
  keys : List Text := []
  scanned : Nat := 0
  skipped : Nat := 0
deriving DecidableEq, Repr

namespace Project

/-- Reads a file and takes the keys of every rule from it. -/
def scanFile (w : World) (rules : List CompiledRule) (path : Text) : Audited (List Text) := do
  Audited.report (.file path)
  let content ← w.readFile path
  Audited.ofTraced (CompiledRule.applyAll rules (Utf8.decodeLossy content))

/-- Goes over entries in order. -/
def scanEntries (w : World) (project : ProjectRules) (found : ScanOutcome) :
    List WalkEntry → Audited ScanOutcome
  | [] => pure found
  | e :: rest =>
    match e.verdict project.selector with
    | .enter => scanEntries w project found rest
    | .skip reason => do
      Audited.report (.skipped e.path reason)
      scanEntries w project { found with skipped := found.skipped + 1 } rest
    | .read => do
      let keys ← scanFile w project.rules e.path
      let found := { found with keys := found.keys ++ keys, scanned := found.scanned + 1 }
      scanEntries w project found rest

/-- The entries below the directory that a path leads to. -/
def list (w : World) (root : Text) : Audited (List WalkEntry) := do
  Audited.act (.walkTree root)
  match w.files.find root with
  | .error e => throw (.file root e)
  | .ok node =>
    if node.isDirectory then return node.walk root
    else throw (.file root .rootNotDirectory)

/-- Scans the tree below a directory. -/
def scan (w : World) (root : Text) (project : ProjectRules) : Audited ScanOutcome := do
  let entries ← list w root
  scanEntries w project {} entries

/-- All keys that the files of a project hold. -/
def keys (w : World) (root : Option Text) (project : Option ProjectRules) : Audited KeySet :=
  match root, project with
  | none, _ => throw (.settings .noProjectPath)
  | some _, none => throw (.settings .noProjectParser)
  | some root, some project => do
    if project.rules.isEmpty then throw (.settings .noRules)
    let found ← scan w root project
    Audited.report (.scanFinished found.scanned found.skipped found.keys.length)
    return KeySet.ofList found.keys

end Project

end WordingAudit
