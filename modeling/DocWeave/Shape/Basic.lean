/-
Shapes: what documentation needs to know about a declaration.  Types have
become names, default values have become source text, and visibility is
settled.
-/
import DocWeave.Outline.Entry

namespace DocWeave

/-- A parameter: its name, its type's name, and the text of its default. -/
structure Parameter where
  name : Text
  typeName : Text
  /-- Present, though maybe empty, whenever there is a default. -/
  default : Option Text := none
  deriving DecidableEq, Repr

/-- A function or a method. -/
structure Signature where
  name : Text
  visibility : Visibility := .publicAccess
  parameters : List Parameter := []
  returnType : Text := "dynamic".toList
  role : CallableRole := .function
  deriving DecidableEq, Repr

structure Property where
  name : Text
  visibility : Visibility := .publicAccess
  typeName : Text := "dynamic".toList
  description : Text := []
  deriving DecidableEq, Repr

structure ClassShape where
  name : Text
  visibility : Visibility := .publicAccess
  parent : Option Text := none
  properties : List Property := []
  methods : List Signature := []
  deriving DecidableEq, Repr

/-- Private declarations are private, all others are documented as public. -/
def shownVisibility : Option Visibility → Visibility
  | some .privateAccess => .privateAccess
  | _ => .publicAccess

def Parameter.of (options : Options) (lines : List Text) (p : Param) : Parameter :=
  { name := p.name
    typeName := p.type.typeName options.untyped
    default := p.default.map fun range => (range.slice lines).strip }

def Signature.of (options : Options) (lines : List Text) (c : Callable) : Signature :=
  { name := c.name
    visibility := shownVisibility c.access
    parameters := c.params.map (Parameter.of options lines)
    returnType := c.returns.typeName options.untyped
    role := c.role }

/-- The shape of a field; its description is its comment on one line. -/
def Property.of (options : Options) (f : Documented Field) : Property :=
  { name := f.decl.name
    visibility := shownVisibility f.decl.access
    typeName := f.decl.type.typeName options.untyped
    description := [' '].intercalate ((docBody options f.doc).filter (!·.isEmpty)) }

/-- The parent of a class, unless its name is blank. -/
def ClassHead.parentName? (head : ClassHead) : Option Text :=
  head.parent.bind fun name => name.strip.given?

def ClassShape.of (options : Options) (lines : List Text) (c : ClassEntry) : ClassShape :=
  { name := c.head.decl.name
    parent := c.head.decl.parentName?
    properties := c.fields.map (Property.of options)
    methods := c.methods.map fun m => Signature.of options lines m.decl }

def classShape (options : Options) (lines : List Text) (head : ClassHead)
    (body : List Stmt) : Except UnhandledKind ClassShape :=
  match firstUnhandled? body with
  | some e => .error e
  | none => .ok (.of options lines (.of ⟨head, none⟩ body))

end DocWeave
