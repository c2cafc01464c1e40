/-
Module names.  A source can name its module by a tag; otherwise the module is
named after its file.
-/
import DocWeave.Text.Basic

namespace DocWeave

def moduleTag : Text := "@module".toList

def isSpaceOrTab (c : Char) : Bool :=
  c == ' ' || c == '\t'

def isModuleNameChar (c : Char) : Bool :=
  !isBlank c && c != '*'

/-- The name after a module tag.  It is set off by spaces or tabs, ends at the
next blank or star, and must not be empty. -/
def nameAfterTag? : Text → Option Text
  | c :: rest =>
      if isSpaceOrTab c then
        Text.given? ((rest.dropWhile isSpaceOrTab).takeWhile isModuleNameChar)
      else none
  | [] => none

/-- The module named by a tag right at the start of a text. -/
def moduleTagAtStart? (t : Text) : Option Text :=
  if moduleTag.isPrefixOf t then nameAfterTag? (t.drop moduleTag.length) else none

/-- The module named by the first tag in a text that names one. -/
def findModuleTag : Text → Option Text
  | [] => none
  | c :: rest => (moduleTagAtStart? (c :: rest)).or (findModuleTag rest)

/-- The last component of a path, passing over empty ones and single dots. -/
def fileName (path : Text) : Text :=
  ((path.splitOn '/').filter fun part => !part.isEmpty && part != ['.']).getLast?.getD []

/-- A file name without its extension.  A dot at the start or at the end
begins no extension. -/
def stem (name : Text) : Text :=
  let base := name.beforeLast '.'
  if base.isEmpty || name.getLast? == some '.' then name else base

/-- The module name of a file, with underscores for dots. -/
def moduleNameOfFile (path : Text) : Text :=
  (stem (fileName path)).map fun c => if c == '.' then '_' else c

/-- A module name, and whether the source itself gives it. -/
structure ModuleName where
  name : Text
  explicit : Bool
  deriving DecidableEq, Repr

/-- The module name of a source file. -/
def ModuleName.resolve (source path : Text) : ModuleName :=
  match findModuleTag source with
  | some name => ⟨name, true⟩
  | none => ⟨moduleNameOfFile path, false⟩

end DocWeave
