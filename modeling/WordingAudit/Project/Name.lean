import WordingAudit.Text

/-!
Names in a project tree. How many dots a name has tells what is expected behind it.
-/

namespace WordingAudit

/-- What a name looks like: no dot, one dot, or more. -/
inductive NameShape
  | directory
  | file (extension : Text)
  | multiDot
deriving DecidableEq, Repr

def NameShape.ofName (name : Text) : NameShape :=
  match Text.splitOnce name '.' with
  | none => .directory
  | some (_, rest) => if '.' ∈ rest then .multiDot else .file rest

/-- Which extensions are wanted: all of them, or those of a list. -/
inductive FileSelector
  | any
  | only (extensions : List Text)
deriving DecidableEq, Repr

namespace FileSelector

/-- The selector of a setting; dots in front of an extension do not count. -/
def ofExtensions (extensions : Option (List Text)) : FileSelector :=
  match extensions with
  | none => any
  | some list => only (list.map fun e => e.dropWhile (· = '.'))

def accepts (selector : FileSelector) (extension : Text) : Bool :=
  match selector with
  | any => true
  | only extensions => extensions.contains extension

end FileSelector

end WordingAudit
