/-
The outline of a file: what is documented, scope by scope, each declaration
with the comment that documents it, in the order of the source.  Statements
that are not documented are gone.  A scope with a statement of an unknown kind
is replaced by that failure, and so is a class with such a statement in its
body.
-/
import DocWeave.Comment.Attachment
import DocWeave.Comment.Body
import DocWeave.Outline.Siblings

namespace DocWeave

/-- A declaration with the comment that documents it. -/
structure Documented (α : Type) where
  decl : α
  doc : Option Comment
  deriving DecidableEq, Repr

/-- A class with the fields and methods of its body. -/
structure ClassEntry where
  head : Documented ClassHead
  fields : List (Documented Field)
  methods : List (Documented Callable)
  deriving DecidableEq, Repr

/-- An entry of an outline. -/
inductive Entry
  | callable (c : Documented Callable)
  | classDecl (c : ClassEntry)
  | namespaceDecl (head : Documented NamespaceHead) (members : List Entry)
  /-- A doc comment that belongs to no declaration. -/
  | detached (c : Comment)
  /-- A failure in place of what could not be outlined. -/
  | unhandled (e : UnhandledKind)
  deriving Repr

/-- The anchor of a declaration of a scope; other statements have none. -/
def Stmt.declAnchor? (stmt : Stmt) : Option Anchor :=
  stmt.place?.map fun _ => stmt.anchor

/-- The fields and methods of a class body, with the comments of that body. -/
def ClassEntry.of (head : Documented ClassHead) (body : List Stmt) : ClassEntry :=
  let comments := commentsOf body
  { head
    fields := (body.filterMap Stmt.field?).map fun f => ⟨f, findDoc comments f.anchor⟩
    methods := (body.filterMap Stmt.method?).map fun m => ⟨m, findDoc comments m.anchor⟩ }

def classEntry (head : Documented ClassHead) (body : List Stmt) : Entry :=
  match firstUnhandled? body with
  | some e => .unhandled e
  | none => .classDecl (.of head body)

/-- The places of the comments of a scope that document a declaration of it. -/
def claimedComments (stmts : List Stmt) : List Nat :=
  (stmts.filterMap Stmt.declAnchor?).filterMap (findDocIndex (commentsOf stmts))

/-- The doc comments of a scope that document no declaration of it. -/
def detachedComments (options : Options) (stmts : List Stmt) : List Comment :=
  ((commentsOf stmts).zipIdx.filter fun c =>
    !(claimedComments stmts).contains c.2 && c.1.isDocBlock options).map (·.1)

/-- The entries for the detached comments, if they are to be kept. -/
def detachedEntries (options : Options) (stmts : List Stmt) : List (Placed Entry) :=
  if options.keepDetached then
    (detachedComments options stmts).map fun c => ⟨c.place, .detached c⟩
  else []

/-- Puts the entries for the declarations of a scope in order. -/
def arrange (options : Options) (stmts : List Stmt) (placed : List (Placed Entry)) :
    List Entry :=
  match firstUnhandled? stmts with
  | some e => [.unhandled e]
  | none => (sortPlaced (placed ++ detachedEntries options stmts)).map (·.item)

mutual
/-- The entry of a declaration in a scope with the given comments. -/
def Stmt.entry? (options : Options) (comments : List Comment) :
    Stmt → Option (Placed Entry)
  | .callable c => some ⟨c.place, .callable ⟨c, findDoc comments c.anchor⟩⟩
  | .classDecl head body =>
      some ⟨head.place, classEntry ⟨head, findDoc comments head.anchor⟩ body⟩
  | .namespaceDecl head body =>
      some ⟨head.place,
        .namespaceDecl ⟨head, findDoc comments head.anchor⟩
          (arrange options body (entriesOf options (commentsOf body) body))⟩
  | _ => none

/-- The entries of the declarations in a list, in list order. -/
def entriesOf (options : Options) (comments : List Comment) :
    List Stmt → List (Placed Entry)
  | [] => []
  | stmt :: rest =>
      (stmt.entry? options comments).toList ++ entriesOf options comments rest
end

/-- The outline of a scope. -/
def outline (options : Options) (stmts : List Stmt) : List Entry :=
  arrange options stmts (entriesOf options (commentsOf stmts) stmts)

end DocWeave
