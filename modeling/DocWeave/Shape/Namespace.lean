/-
Shapes of namespaces.  A namespace inside another one is known by its
qualified name, and the part of that name before the last dot is its parent.
-/
import DocWeave.Shape.Basic

namespace DocWeave

/-- A name within a scope; an empty scope name is no scope. -/
def qualify (scope : Option Text) (name : Text) : Text :=
  match scope.bind Text.given? with
  | some outer => outer ++ '.' :: name
  | none => name

/-- The name before the last dot of a qualified name, if there is one. -/
def parentOf? (qualified : Text) : Option Text :=
  (qualified.beforeLast '.').given?

/-- A namespace without its members. -/
structure NamespaceHeader where
  /-- The name as it was declared. -/
  name : Text
  qualified : Text
  parent : Option Text := none
  deriving DecidableEq, Repr

def NamespaceHeader.of (scope : Option Text) (head : NamespaceHead) : NamespaceHeader :=
  let qualified := qualify scope head.name
  ⟨head.name, qualified, parentOf? qualified⟩

inductive DeclShape
  | callable (s : Signature)
  | classDecl (s : ClassShape)
  | namespaceDecl (header : NamespaceHeader) (members : List DeclShape)
  deriving Repr

mutual
/-- The shapes of an entry in a scope: one for a declaration, none for a
comment. -/
def Entry.shapes (options : Options) (lines : List Text) (scope : Option Text) :
    Entry → Except UnhandledKind (List DeclShape)
  | .callable c => .ok [.callable (.of options lines c.decl)]
  | .classDecl c => .ok [.classDecl (.of options lines c)]
  | .namespaceDecl head members => do
      let header := NamespaceHeader.of scope head.decl
      let inner ← shapesOf options lines (some header.qualified) members
      return [.namespaceDecl header inner]
  | .detached _ => .ok []
  | .unhandled e => .error e

def shapesOf (options : Options) (lines : List Text) (scope : Option Text) :
    List Entry → Except UnhandledKind (List DeclShape)
  | [] => .ok []
  | entry :: rest => do
      let here ← entry.shapes options lines scope
      let later ← shapesOf options lines scope rest
      return here ++ later
end

/-- The members of a namespace with a body. -/
def namespaceMembers (options : Options) (lines : List Text) (scope : Option Text)
    (head : NamespaceHead) (body : List Stmt) : Except UnhandledKind (List DeclShape) :=
  shapesOf options lines (some (qualify scope head.name)) (outline options body)

end DocWeave
