/-
Diagnostics: remarks about documentation that could not be taken over as it
was written.  None of them stops a conversion.
-/
import DocWeave.Source.Span

namespace DocWeave

/-- A remark on some place in the source. -/
structure Diagnostic where
  message : Text
  code : Option Text := none
  phase : Option Text := none
  severity : Text := "warning".toList
  span : Span := {}
  notes : List Text := []
  deriving DecidableEq, Repr

/-- Shows a diagnostic on one line: place, severity, message. -/
def Diagnostic.format (d : Diagnostic) : Text :=
  d.span.text ++ ": ".toList ++ d.severity ++ ": ".toList ++ d.message

end DocWeave
