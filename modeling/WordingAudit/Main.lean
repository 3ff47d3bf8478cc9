import WordingAudit.CommandLine.Run

/-!
The command itself. It looks at the files that an audit can touch, runs the audit on what it has
seen, and prints. Servers are out of its reach.
-/

namespace WordingAudit.Command

/-- Stands for an entry that leads nowhere. -/
def dangling : Node := .link []

/-- Stands for a link to a directory, which is not entered. -/
def directoryLink : Node := .link ['.']

/-- The file at a path of the disk. -/
def lookAtFile (path : String) : IO Node := do
  let content ← IO.FS.readBinFile ((← IO.currentDir) / path)
  return .file content.toList

/-- The directory at a path of the disk with everything that a walk through it meets. -/
partial def lookAtDirectory (path : String) : IO Node := do
  let entries ← ((← IO.currentDir) / path).readDir
  let nodes ← entries.toList.mapM fun e => do
    let name := Text.of e.fileName
    let inside := path ++ "/" ++ e.fileName
    let isLink := (← e.path.symlinkMetadata).type matches .symlink
    let node ← try
        let isDirectory := (← e.path.metadata).type matches .dir
        if !isDirectory then lookAtFile inside
        else if isLink then pure directoryLink
        else if NameShape.ofName name = .directory then lookAtDirectory inside
        else pure Node.empty
      catch _ => pure dangling
    return (name, node)
  return .directory nodes

/-- The tree with what stands on a way through the disk; at its end everything below as well. -/
def lookAlong (tree : Node) (done : List Text) : List Text → IO Node
  | [] => return tree
  | name :: rest => do
    let here := if name = ['.'] then done
      else if name = Text.of ".." then done.dropLast
      else done ++ [name]
    let path := String.ofList ('/' :: Text.join ['/'] here)
    let node ← try
        let isDirectory := (← ((← IO.currentDir) / path).metadata).type matches .dir
        if !isDirectory then pure (some (← lookAtFile path))
        else if rest.isEmpty then pure (some (← lookAtDirectory path))
        else pure (some Node.empty)
      catch _ => pure none
    match node with
    | none => return tree
    | some node => lookAlong (node.put here tree) here rest

/-- The world as far as the given paths lead. -/
def lookAt (paths : List Text) : IO World := do
  let home := FileTree.steps (Text.of (← IO.currentDir).toString)
  let start := Node.empty.put home Node.empty
  let top ← paths.foldlM (fun tree path =>
    lookAlong tree [] (if Path.isAbsolute path then FileTree.steps path
      else home ++ FileTree.steps path)) start
  return { files := ⟨top, home⟩, server := none }

/-- The files that an audit with these arguments can touch. -/
def paths (words : List Text) : IO (List Text) := do
  match CommandLine.Arguments.ofWords words with
  | .ok ⟨some path, _, _⟩ =>
    match (ExceptT.run (Audit.loadConfig (← lookAt [path]) path)).value with
    | .ok config => return [some path, config.projectPath, config.wordingsSource].filterMap id
    | .error _ => return [path]
  | _ => return []

end WordingAudit.Command

open WordingAudit in
def main (args : List String) : IO UInt32 := do
  let words := args.map Text.of
  let world ← Command.lookAt (← Command.paths words)
  let output := CommandLine.run world (← (← IO.getStdout).isTty) words
  IO.print (String.ofList output.stdout)
  IO.eprint (String.ofList output.stderr)
  return UInt32.ofNat output.status.code
