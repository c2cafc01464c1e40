/-
The doc blocks of fields, classes, namespaces and modules.
-/
import DocWeave.Reconcile.Callable

namespace DocWeave

def documentProperty (options : Options) (p : Property) : DocBlock :=
  .ofEntries ((TagKind.property, propertyLine p) :: accessEntries options p.name p.visibility)

/-- The doc block of a class.  Lines of the author that name a parent are
dropped in favour of the declared one, and private fields are left out. -/
def documentClass (options : Options) (moduleName scope : Option Text) (s : ClassShape)
    (body : List Text) : DocBlock :=
  let text := body.filter fun line => !(BodyLine.read line).hasRole .parent
  let shown := s.properties.filter fun p => !isPrivate options p.name p.visibility
  .ofEntries
    (text.map (TagKind.text, ·) ++
      ((s.parent.bind Text.given?).map
        fun name => (TagKind.parent, "@extends ".toList ++ name)).toList ++
      memberEntries moduleName scope ++
      shown.map fun p => (TagKind.property, propertyLine p))

def documentNamespace (moduleName : Option Text) (header : NamespaceHeader)
    (body : List Text) : DocBlock :=
  .ofEntries
    (body.map (TagKind.text, ·) ++ memberEntries moduleName header.parent ++
      [(.namespaceName, "@namespace ".toList ++ header.qualified)])

def documentModule (name : Text) : DocBlock :=
  .ofEntries [(.moduleName, "@module ".toList ++ name)]

/-- The doc block of a comment that belongs to no declaration. -/
def documentDetached (options : Options) (c : Comment) : DocBlock :=
  .ofEntries ((bodyOf options c.text).map (TagKind.text, ·))

end DocWeave
