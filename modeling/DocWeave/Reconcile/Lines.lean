/-
The lines a doc block is made of.  Each is written from the shape of a
declaration and, where there is one, from the author's tag line: the author's
type wins over the declared one, and the author's description is kept.
-/
import DocWeave.Shape.Namespace
import DocWeave.Tag.Line

namespace DocWeave

def inBraces (t : Text) : Text :=
  '{' :: t ++ ['}']

/-- The type shown for a value: the author's, or else the declared one. -/
def shownType (declared : Text) (tag : Option TagLine) : Text :=
  ((tag.bind TagLine.type).bind Text.given?).getD declared

/-- The description of a tag line that may be missing. -/
def shownDescription (tag : Option TagLine) : Text :=
  (tag.map TagLine.description).getD []

/-- A parameter as it is named in its line, in brackets if it has a default. -/
def Parameter.shown (p : Parameter) : Text :=
  match p.default with
  | none => p.name
  | some [] => '[' :: p.name ++ [']']
  | some value => '[' :: p.name ++ '=' :: value ++ [']']

/-- The line of a parameter. -/
def paramLine (p : Parameter) (tag : Option TagLine) : Text :=
  withDescription
    ("@param ".toList ++ inBraces (shownType p.typeName tag) ++ ' ' :: p.shown)
    (shownDescription tag)

def returnLine (type : Text) (tag : Option TagLine) : Text :=
  withDescription ("@return ".toList ++ inBraces (shownType type tag)) (shownDescription tag)

def propertyLine (p : Property) : Text :=
  withDescription ("@property ".toList ++ inBraces p.typeName ++ ' ' :: p.name) p.description

/-- The line that says what a declaration belongs to: the innermost namespace,
or else the module, or else nothing. -/
def memberLine? (moduleName scope : Option Text) : Option Text :=
  ((scope.bind Text.given?).or (moduleName.bind Text.given?)).map
    ("@memberof module:".toList ++ ·)

/-- Whether a declaration is private, by its name or by its visibility. -/
def isPrivate (options : Options) (name : Text) (visibility : Visibility) : Bool :=
  options.isPrivateName name || visibility == .privateAccess

theorem shownType_eq_or (declared : Text) (tag : Option TagLine) :
    shownType declared tag = declared ∨
      ∃ read ∈ tag, read.type = some (shownType declared tag) := by
  rw [shownType]
  cases hshown : (tag.bind TagLine.type).bind Text.given? with
  | none => exact Or.inl rfl
  | some shown =>
      obtain ⟨type, htype, hgiven⟩ := Option.bind_eq_some_iff.mp hshown
      obtain ⟨rfl, -⟩ := (Text.given?_eq_some_iff type shown).mp hgiven
      exact Or.inr (Option.bind_eq_some_iff.mp htype)

end DocWeave
