/-
Statements of a source file, as far as documentation is concerned: comments,
callables, fields, classes and namespaces, each with the range it covers.
Statements of kinds without documentation are kept as `other`, and a kind
nobody knows is kept under its name.
-/
import DocWeave.Source.Range
import DocWeave.Statement.Type

namespace DocWeave

/-- How far a declaration can be seen. -/
inductive Visibility
  | publicAccess | protectedAccess | privateAccess
  deriving DecidableEq, Repr

/-- A marking on a line of its own above a declaration. -/
structure Annot where
  name : Text
  range : SourceRange
  deriving DecidableEq, Repr

/-- A parameter, with the range of its default value if it has one. -/
structure Param where
  name : Text
  type : DeclaredType := .absent
  default : Option SourceRange := none
  range : Option SourceRange := none
  deriving DecidableEq, Repr

/-- A comment with its text as written. -/
structure Comment where
  range : SourceRange
  text : Text
  deriving DecidableEq, Repr

/-- What a callable is: a free function, or a method that may override another. -/
inductive CallableRole
  | function
  | method (overrides : Bool)
  deriving DecidableEq, Repr

/-- A function or a method. -/
structure Callable where
  name : Text
  range : SourceRange
  params : List Param := []
  returns : DeclaredType := .absent
  annots : List Annot := []
  access : Option Visibility := none
  role : CallableRole := .function
  deriving DecidableEq, Repr

structure Field where
  name : Text
  range : SourceRange
  type : DeclaredType := .absent
  access : Option Visibility := none
  annots : List Annot := []
  deriving DecidableEq, Repr

/-- A class without its body. -/
structure ClassHead where
  name : Text
  range : SourceRange
  parent : Option Text := none
  annots : List Annot := []
  deriving DecidableEq, Repr

/-- A namespace without its body.  Its name may be dotted. -/
structure NamespaceHead where
  name : Text
  range : SourceRange
  deriving DecidableEq, Repr

/-- A statement. -/
inductive Stmt
  | comment (c : Comment)
  | callable (c : Callable)
  | field (f : Field)
  | classDecl (head : ClassHead) (body : List Stmt)
  | namespaceDecl (head : NamespaceHead) (body : List Stmt)
  | other (range : SourceRange) (text : Text)
  | unknown (kind : Text) (range : SourceRange)
  deriving Repr

def Callable.isMethod (c : Callable) : Bool :=
  match c.role with
  | .function => false
  | .method _ => true

def Stmt.comment? : Stmt → Option Comment
  | .comment c => some c
  | _ => none

def Stmt.callable? : Stmt → Option Callable
  | .callable c => some c
  | _ => none

def Stmt.method? : Stmt → Option Callable
  | .callable c => if c.isMethod then some c else none
  | _ => none

def Stmt.field? : Stmt → Option Field
  | .field f => some f
  | _ => none

def Stmt.classHead? : Stmt → Option ClassHead
  | .classDecl head _ => some head
  | _ => none

def Stmt.namespaceHead? : Stmt → Option NamespaceHead
  | .namespaceDecl head _ => some head
  | _ => none

/-- The kind of a statement nobody knows. -/
def Stmt.unknownKind? : Stmt → Option Text
  | .unknown kind _ => some kind
  | _ => none

def Stmt.range : Stmt → SourceRange
  | .comment c => c.range
  | .callable c => c.range
  | .field f => f.range
  | .classDecl head _ => head.range
  | .namespaceDecl head _ => head.range
  | .other range _ => range
  | .unknown _ range => range

end DocWeave
