import WordingAudit.Audit.Mode

/-!
Reading the arguments of the command. Options are read in order; an option that waits for a value
is settled by the next thing that happens, and whether the options go together is looked at last.
-/

namespace WordingAudit.CommandLine

/-- An option without a value. -/
inductive Flag
  | mode (mode : Mode)
  | verbose
  | help
  | version
deriving DecidableEq, Repr

/-- What is wrong with the arguments. -/
inductive Problem
  | valueMissing
  | repeated (option : Text)
  | conflict (option : Text) (others : List Text)
  | unexpectedArgument (argument : Text)
  | unexpectedValue (value option : Text)
deriving DecidableEq, Repr

/-- Why reading stops before the end: for help, for the version, or for a problem. -/
inductive Stop
  | help
  | version
  | problem (problem : Problem)
deriving DecidableEq, Repr

/-- What the arguments ask for. -/
structure Arguments where
  config : Option Text
  mode : Mode
  verbose : Bool
deriving DecidableEq, Repr

namespace Flag

def modes : List Mode := [.allProject, .allFile, .orphanProject, .orphanFile]

def all : List Flag := modes.map mode ++ [verbose, help, version]

/-- The name of a flag without its dashes. -/
def name : Flag → Text
  | mode .allProject => Text.of "show-all-project-keys"
  | mode .allFile => Text.of "show-all-file-keys"
  | mode .orphanProject => Text.of "show-orphan-project-keys"
  | mode .orphanFile => Text.of "show-orphan-file-keys"
  | verbose => Text.of "verbose"
  | help => Text.of "help"
  | version => Text.of "version"

/-- The letter that stands for a flag. -/
def letter? : Flag → Option Char
  | mode _ => none
  | verbose => some 'v'
  | help => some 'h'
  | version => some 'V'

/-- The flag as it is written. -/
def written (f : Flag) : Text := Text.of "--" ++ f.name

def isMode : Flag → Bool
  | mode _ => true
  | _ => false

def mode? : Flag → Option Mode
  | mode m => some m
  | _ => none

end Flag

/-- The name of the option that takes a value, its letter, and how it is written. -/
def configName : Text := Text.of "config"

def configLetter : Char := 'c'

def configWritten : Text := Text.of "--config <PATH>"

namespace Problem

def firstLine : Problem → Text
  | valueMissing => Text.of "error: a value is required for '" ++ configWritten ++
      Text.of "' but none was supplied"
  | repeated option => Text.of "error: the argument '" ++ option ++
      Text.of "' cannot be used multiple times"
  | conflict option [other] => Text.of "error: the argument '" ++ option ++
      Text.of "' cannot be used with '" ++ other ++ ['\'']
  | conflict option _ => Text.of "error: the argument '" ++ option ++
      Text.of "' cannot be used with:"
  | unexpectedArgument argument => Text.of "error: unexpected argument '" ++ argument ++
      Text.of "' found"
  | unexpectedValue value option => Text.of "error: unexpected value '" ++ value ++
      Text.of "' for '" ++ option ++ Text.of "' found; no more were expected"

/-- The options that a problem lists below its first line. -/
def listed : Problem → List Text
  | conflict _ [_] => []
  | conflict _ others => others.map fun o => Text.of "  " ++ o
  | _ => []

end Problem

/-- The arguments read so far. `pending` is an option that waits to be settled, with its value if
it has come; `flags` are in the order of the arguments. -/
structure Progress where
  config : Option Text := none
  pending : Option (Option Text) := none
  flags : List Flag := []
deriving DecidableEq, Repr

/-- A step of reading. -/
abbrev Reading := Except Stop

def fail {α : Type} (p : Problem) : Reading α := .error (.problem p)

namespace Progress

/-- Sets the option that takes a value. -/
def setConfig (p : Progress) (value : Text) : Reading Progress :=
  if p.config.isSome then fail (.repeated configWritten)
  else if value.isEmpty then fail .valueMissing
  else .ok { p with config := some value, pending := none }

/-- Settles the option that waits. -/
def settle (p : Progress) : Reading Progress :=
  match p.pending with
  | none => .ok p
  | some none => fail .valueMissing
  | some (some value) => setConfig p value

/-- Sets a flag. Help and version end the reading. -/
def setFlag (p : Progress) (f : Flag) : Reading Progress := do
  let p ← p.settle
  match f with
  | .help => throw .help
  | .version => throw .version
  | f =>
    if p.flags.contains f then fail (.repeated f.written)
    else return { p with flags := p.flags ++ [f] }

/-- The option that takes a value, with the value attached to it if there is one. -/
def startConfig (p : Progress) (attached : Option Text) : Reading Progress := do
  let p ← p.settle
  match attached with
  | some value => p.setConfig value
  | none => return { p with pending := some none }

/-- An option by its name, with the value attached to it. -/
def readLong (p : Progress) (name : Text) (attached : Option Text) : Reading Progress :=
  if name = configName then p.startConfig attached
  else
    match Flag.all.find? fun f => f.name = name with
    | none => fail (.unexpectedArgument (Text.of "--" ++ name))
    | some f =>
      match attached with
      | none => p.setFlag f
      | some value => fail (.unexpectedValue value f.written)

/-- Options by their letters; what follows the one that takes a value is its value. -/
def readLetters (p : Progress) : Text → Reading Progress
  | [] => .ok p
  | c :: rest =>
    if c = configLetter then
      match rest with
      | [] => p.startConfig none
      | '=' :: value => p.startConfig (some value)
      | value => p.startConfig (some value)
    else
      match Flag.all.find? fun f => f.letter? = some c with
      | none => fail (.unexpectedArgument ['-', c])
      | some f => do
        let p ← p.setFlag f
        readLetters p rest

/-- A word that is no option: the value that is waited for, or something unexpected. -/
def readWord (p : Progress) (word : Text) : Reading Progress :=
  if p.pending = some none then .ok { p with pending := some (some word) }
  else fail (.unexpectedArgument word)

/-- All arguments in order. After two dashes nothing is expected any more. -/
def readAll (p : Progress) : List Text → Reading Progress
  | [] => p.settle
  | argument :: rest =>
    match argument with
    | ['-', '-'] =>
      match rest with
      | [] => p.settle
      | word :: _ => fail (.unexpectedArgument word)
    | '-' :: '-' :: option => do
      let (name, attached) := match Text.splitOnce option '=' with
        | none => (option, none)
        | some (name, value) => (name, some value)
      let p ← p.readLong name attached
      readAll p rest
    | '-' :: c :: letters => do
      let p ← p.readLetters (c :: letters)
      readAll p rest
    | word => do
      let p ← p.readWord word
      readAll p rest

/-- The arguments, if no two of the modes are asked for. -/
def toArguments (p : Progress) : Reading Arguments :=
  match p.flags.filter Flag.isMode with
  | first :: second :: others =>
    fail (.conflict first.written ((second :: others).map Flag.written))
  | modes =>
    .ok ⟨p.config, ((modes.head?.bind Flag.mode?).getD .orphanFile), p.flags.contains .verbose⟩

end Progress

/-- What the arguments after the name of the command ask for. -/
def Arguments.ofWords (words : List Text) : Reading Arguments := do
  let p ← Progress.readAll {} words
  p.toArguments

end WordingAudit.CommandLine
