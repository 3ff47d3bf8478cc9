import WordingAudit.CommandLine.Arguments

/-!
The texts that the command prints about itself.
-/

namespace WordingAudit.CommandLine

def commandName : Text := Text.of "clean-wording"

def versionLine : Text := commandName ++ Text.of " 0.1.0"

def about : Text := Text.of "Get all wording keys from a file that are unused in a project"

def usageLine : Text := Text.of "Usage: " ++ commandName ++ Text.of " [OPTIONS]"

/-- The options with what they do. -/
def optionLines : List Text := [
  Text.of ("  -c, --config <PATH>             " ++
    "[Required] Path to the config JSON file (e.g. .clean_wording_config.json)"),
  Text.of "      --show-all-project-keys     Show all detected project wording keys",
  Text.of "      --show-all-file-keys        Show all detected file wording keys",
  Text.of ("      --show-orphan-project-keys  " ++
    "Show project wording keys not present in the file wording keys"),
  Text.of ("      --show-orphan-file-keys     " ++
    "[Default] Show file wording keys not present in the project wording keys"),
  Text.of "  -v, --verbose                   Show verbose logs",
  Text.of "  -h, --help                      Print help",
  Text.of "  -V, --version                   Print version"]

def helpLines : List Text := [about, [], usageLine, [], Text.of "Options:"] ++ optionLines

/-- Lines as text, each with its end. -/
def unlines (lines : List Text) : Text := lines.flatMap fun line => line ++ ['\n']

/-- What is printed for a problem with the arguments. -/
def problemLines (p : Problem) : List Text :=
  [p.firstLine] ++ p.listed ++ [[], usageLine, [], Text.of "For more information, try '--help'."]

end WordingAudit.CommandLine
