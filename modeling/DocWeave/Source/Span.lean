/-
Spans: what a diagnostic knows about the place it speaks of.  Every part may
be missing.
-/
import DocWeave.Source.Range

namespace DocWeave

/-- A place in a file, as far as it is known. -/
structure Span where
  file : Option Text := none
  line : Option Int := none
  column : Option Int := none
  endLine : Option Int := none
  endColumn : Option Int := none
  deriving DecidableEq, Repr

def Span.ofRange (range : Option SourceRange) (file : Option Text) : Span :=
  match range with
  | none => { file }
  | some r =>
      { file, line := some r.start.line, column := some r.start.column,
        endLine := some r.stop.line, endColumn := some r.stop.column }

def numberOrUnknown : Option Int → Text
  | some n => Text.ofInt n
  | none => ['?']

/-- Shows a span as `file:line:column`, leaving out a file without a name. -/
def Span.text (span : Span) : Text :=
  let place := numberOrUnknown span.line ++ ':' :: numberOrUnknown span.column
  match span.file.bind Text.given? with
  | some file => file ++ ':' :: place
  | none => place

end DocWeave
