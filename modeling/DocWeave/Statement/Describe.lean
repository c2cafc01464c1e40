/-
One-line descriptions of statements, used as notes of diagnostics.
-/
import DocWeave.Statement.Basic

namespace DocWeave

/-- Shows a range as `line:column-line:column`. -/
def SourceRange.text (range : SourceRange) : Text :=
  Text.ofInt range.start.line ++ ':' :: Text.ofInt range.start.column ++ '-' ::
    Text.ofInt range.stop.line ++ ':' :: Text.ofInt range.stop.column

/-- A kind, a name unless it is empty, and a range. -/
def describeAs (kind name : Text) (range : SourceRange) : Text :=
  let label :=
    match name.given? with
    | some shown => kind ++ ' ' :: shown
    | none => kind
  label ++ " @ ".toList ++ range.text

def CallableRole.word : CallableRole → Text
  | .function => "function".toList
  | .method _ => "method".toList

def Callable.describe (c : Callable) : Text :=
  describeAs c.role.word c.name c.range

def Field.describe (f : Field) : Text :=
  describeAs "field".toList f.name f.range

def Stmt.describe : Stmt → Text
  | .comment c => describeAs "comment".toList [] c.range
  | .callable c => c.describe
  | .field f => f.describe
  | .classDecl head _ => describeAs "class".toList head.name head.range
  | .namespaceDecl head _ => describeAs "namespace".toList head.name head.range
  | .other range _ => describeAs "other".toList [] range
  | .unknown kind range => describeAs kind [] range

end DocWeave
