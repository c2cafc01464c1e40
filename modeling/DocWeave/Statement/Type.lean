/-
Types as a parser reports them, and the names they are documented under.
-/
import DocWeave.Text.Basic

namespace DocWeave

/-- The built-in kinds of values. -/
inductive ValueKind
  | invalid | boolean | string | integer | longInteger | float | double
  | callable | object | interface | dynamic | void | uninitialized
  deriving DecidableEq, Repr

/-- The name a built-in kind is written with; a kind that says nothing about
the value has none. -/
def ValueKind.spelling? : ValueKind → Option Text
  | .invalid => some "invalid".toList
  | .boolean => some "boolean".toList
  | .string => some "string".toList
  | .integer => some "integer".toList
  | .longInteger => some "longinteger".toList
  | .float => some "float".toList
  | .double => some "double".toList
  | .callable => some "function".toList
  | .object => some "object".toList
  | .interface => some "object".toList
  | .void => some "void".toList
  | .dynamic => none
  | .uninitialized => none

inductive DeclaredType
  /-- Nothing was declared. -/
  | absent
  /-- A type given as text. -/
  | plain (text : Text)
  /-- A type the program itself defines, by its name. -/
  | named (text : Text)
  /-- A built-in kind. -/
  | builtin (kind : ValueKind)
  /-- Something the parser could not make out. -/
  | unresolved
  deriving DecidableEq, Repr

def DeclaredType.name? : DeclaredType → Option Text
  | .absent => none
  | .plain text => text.strip.given?
  | .named text => text.strip.given?
  | .builtin kind => kind.spelling?
  | .unresolved => none

/-- The name a declared type is documented under: its own, or else the name
for values without a type. -/
def DeclaredType.typeName (type : DeclaredType) (untyped : Text) : Text :=
  type.name?.getD untyped

end DocWeave
