/-
Options of a conversion.  They are given as settings and checked once; every
later stage receives options that passed the check.
-/
import DocWeave.Text.Case
import DocWeave.Text.Quoted

namespace DocWeave

/-- What a conversion can be told. -/
structure Options where
  /-- The method that counts as the constructor of its class, in any case. -/
  constructorName : Text := "new".toList
  /-- How a constructor is spelled in the emitted class. -/
  constructorSpelling : Text := "constructor".toList
  /-- Names that start like this are private; an empty one marks no name. -/
  privateStart : Text := "_".toList
  /-- What a comment line may start with. -/
  commentMarkers : List Text := ["'".toList, "REM".toList]
  /-- The type name of values without a type. -/
  untyped : Text := "dynamic".toList
  /-- Whether a module line is written when the source has none. -/
  emitModuleTag : Bool := true
  /-- Whether doc comments that belong to no declaration are kept. -/
  keepDetached : Bool := false
  deriving DecidableEq, Repr

/-- Comment markers as they are given: a list is meant, a single text is a mistake. -/
inductive MarkerSetting
  | single (text : Text)
  | many (markers : List Text)
  deriving DecidableEq, Repr

/-- What is wrong with some options. -/
inductive OptionsError
  | blankConstructorName
  | blankConstructorSpelling
  | blankUntyped
  | markersNotAList
  | badMarker (marker : Text)
  deriving DecidableEq, Repr

def OptionsError.message : OptionsError → Text
  | .blankConstructorName => "constructor_name must be non-empty".toList
  | .blankConstructorSpelling => "constructor_spelling must be non-empty".toList
  | .blankUntyped => "untyped marker must be non-empty".toList
  | .markersNotAList =>
      "comment_markers must be a sequence of markers, not a string".toList
  | .badMarker marker => "invalid comment marker ".toList ++ marker.quoted

/-- A marker has to be there and must not start or end with a blank. -/
def isMarker (t : Text) : Bool :=
  !t.isEmpty && t == t.strip

/-- Checks options whose markers are given apart.  The first fault found is
reported, in the order of the fields. -/
def Options.check (options : Options) (markers : MarkerSetting) :
    Except OptionsError Options :=
  if options.constructorName.strip.isEmpty then .error .blankConstructorName
  else if options.constructorSpelling.strip.isEmpty then .error .blankConstructorSpelling
  else if options.untyped.strip.isEmpty then .error .blankUntyped
  else
    match markers with
    | .single _ => .error .markersNotAList
    | .many ms =>
        match ms.find? (fun m => !isMarker m) with
        | some m => .error (.badMarker m)
        | none => .ok { options with commentMarkers := ms }

/-- Whether a name is the constructor's, in any case. -/
def Options.isConstructor (options : Options) (name : Text) : Bool :=
  name.sameLower options.constructorName

/-- Whether a name is private by how it starts. -/
def Options.isPrivateName (options : Options) (name : Text) : Bool :=
  !options.privateStart.isEmpty && options.privateStart.isPrefixOf name

end DocWeave
