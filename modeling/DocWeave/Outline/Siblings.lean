/-
The statements of one scope, sorted by what they are.  Bodies are not looked
into.  A scope with a statement of a kind nobody knows cannot be sorted.
-/
import DocWeave.Outline.Order
import DocWeave.Statement.Basic
import DocWeave.Text.Quoted

namespace DocWeave

/-- A statement of a kind nobody knows how to handle. -/
structure UnhandledKind where
  kind : Text
  deriving DecidableEq, Repr

/-- What is said about a kind nobody handles. -/
def UnhandledKind.message (e : UnhandledKind) : Text :=
  "unhandled statement kind ".toList ++ e.kind.quoted

/-- The first statement of an unknown kind in a list. -/
def firstUnhandled? (stmts : List Stmt) : Option UnhandledKind :=
  (stmts.findSome? Stmt.unknownKind?).map UnhandledKind.mk

def commentsOf (stmts : List Stmt) : List Comment :=
  stmts.filterMap Stmt.comment?

def Callable.place (c : Callable) : Place := ⟨c.range.start, 0⟩

def ClassHead.place (head : ClassHead) : Place := ⟨head.range.start, 1⟩

def NamespaceHead.place (head : NamespaceHead) : Place := ⟨head.range.start, 2⟩

def Comment.place (c : Comment) : Place := ⟨c.range.start, 3⟩

/-- The place of a declaration; other statements have none. -/
def Stmt.place? : Stmt → Option Place
  | .callable c => some c.place
  | .classDecl head _ => some head.place
  | .namespaceDecl head _ => some head.place
  | _ => none

/-- The statements of a scope by what they are. -/
structure Siblings where
  comments : List Stmt
  callables : List Stmt
  classes : List Stmt
  namespaces : List Stmt
  deriving Repr

/-- Sorts the statements of a scope. -/
def classify (stmts : List Stmt) : Except UnhandledKind Siblings :=
  match firstUnhandled? stmts with
  | some e => .error e
  | none =>
      .ok { comments := stmts.filter (·.comment?.isSome)
            callables := stmts.filter (·.callable?.isSome)
            classes := stmts.filter (·.classHead?.isSome)
            namespaces := stmts.filter (·.namespaceHead?.isSome) }

/-- Whether there is nothing to document. -/
def Siblings.isEmpty (s : Siblings) : Bool :=
  s.comments.isEmpty && s.callables.isEmpty && s.classes.isEmpty && s.namespaces.isEmpty

/-- The declarations of a scope in the order they start. -/
def declarations (stmts : List Stmt) : List Stmt :=
  (sortPlaced (stmts.filterMap fun stmt => stmt.place?.map (⟨·, stmt⟩))).map (·.item)

/-- The declarations among sorted statements, in the order they start. -/
def Siblings.declarations (s : Siblings) : List Stmt :=
  DocWeave.declarations (s.callables ++ s.classes ++ s.namespaces)

end DocWeave
