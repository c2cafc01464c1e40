/-
Statements built from line numbers.  A declaration covers its line and the
next one unless its last line is given, and a default value is found by
searching for it in the source line.
-/
import DocWeave.Statement.Basic

namespace DocWeave

/-- Why a default value could not be located. -/
inductive LocateError
  /-- The file has no such line. -/
  | noSuchLine
  /-- No file could have such a line: its number does not fit in a signed
  64-bit word. -/
  | numberTooLarge
  /-- The name, or the default after it, is not on the line. -/
  | notFound
  deriving DecidableEq, Repr

def LocateError.message : LocateError → Text
  | .noSuchLine => "list index out of range".toList
  | .numberTooLarge => "cannot fit 'int' into an index-sized integer".toList
  | .notFound => "substring not found".toList

/-- A source line by its number; numbers below one count from the end. -/
def sourceLine (lines : List Text) (number : Int) : Except LocateError Text :=
  let index := number - 1
  let place := if index < 0 then index + lines.length else index
  match if place < 0 then none else lines[place.toNat]? with
  | some line => .ok line
  | none =>
      if index < -0x8000000000000000 ∨ 0x8000000000000000 ≤ index then .error .numberTooLarge
      else .error .noSuchLine

/-- The column of the first `value` on a line after the first `name`. -/
def defaultColumn? (name value line : Text) : Option Nat := do
  let nameAt ← Text.offset? name line
  let start := nameAt + name.length
  let valueAt ← Text.offset? value (line.drop start)
  return start + valueAt

/-- A parameter whose default value is the given text, located on a source line. -/
def Param.locate (source : Text) (line : Int) (name value : Text) (type : DeclaredType) :
    Except LocateError Param := do
  let text ← sourceLine source.lines line
  match defaultColumn? name value text with
  | none => .error .notFound
  | some column =>
      return { name, type,
               default := some ⟨⟨line, column⟩, ⟨line, column + value.length⟩⟩ }

def Annot.onLine (name : Text) (line : Int) : Annot :=
  ⟨name, .ofLines line none⟩

/-- A comment that starts on a line and has the given lines. -/
def Comment.onLines (line : Int) (lines : List Text) : Comment :=
  ⟨.ofLines line (some (line + lines.length - 1)), Text.unlines lines⟩

/-- The range of a declaration: up to its last line, or else the next one. -/
def declarationRange (line : Int) (last : Option Int) : SourceRange :=
  .ofLines line (some (last.getD (line + 1)))

end DocWeave
