/-
Which comment documents which declaration.  A comment documents a declaration
when it ends on the line above it, or above its first annotation, and also
when it ends on the line the declaration starts on.  Of several such comments
the first one counts.
-/
import DocWeave.Statement.Basic

namespace DocWeave

/-- The two lines that tie a comment to a declaration: the top line, which
annotations move up, and the line of the declaration itself. -/
structure Anchor where
  top : Int
  line : Int
  deriving DecidableEq, Repr

def Anchor.of (annots : List Annot) (range : SourceRange) : Anchor :=
  { top := (annots.head?.map (·.range.start.line)).getD range.start.line
    line := range.start.line }

def Callable.anchor (c : Callable) : Anchor := .of c.annots c.range

def Field.anchor (f : Field) : Anchor := .of f.annots f.range

def ClassHead.anchor (head : ClassHead) : Anchor := .of head.annots head.range

/-- The anchor of a namespace, which has no annotations. -/
def NamespaceHead.anchor (head : NamespaceHead) : Anchor := .of [] head.range

def Stmt.anchor : Stmt → Anchor
  | .callable c => c.anchor
  | .field f => f.anchor
  | .classDecl head _ => head.anchor
  | .namespaceDecl head _ => head.anchor
  | stmt => .of [] stmt.range

/-- Whether a comment documents the declaration with an anchor. -/
def Comment.documents (comment : Comment) (anchor : Anchor) : Bool :=
  comment.range.stop.line + 1 == anchor.top || comment.range.stop.line == anchor.line

/-- The comment that documents a declaration. -/
def findDoc (comments : List Comment) (anchor : Anchor) : Option Comment :=
  comments.find? (·.documents anchor)

/-- The place of the comment that documents a declaration.  It tells two
comments apart that read the same. -/
def findDocIndex (comments : List Comment) (anchor : Anchor) : Option Nat :=
  comments.findIdx? (·.documents anchor)

end DocWeave
