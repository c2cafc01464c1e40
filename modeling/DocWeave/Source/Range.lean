/-
Ranges of source text.  A range runs from a position up to, and not including,
a second one.  Its text is cut out of the lines of the file; a range that does
not fit the file covers nothing.
-/
import DocWeave.Source.Position
import DocWeave.Text.Slice

namespace DocWeave

/-- The text from `start` up to `stop`. -/
structure SourceRange where
  start : Position
  stop : Position
  deriving DecidableEq, Repr

/-- The range from the start of one line to the start of another; without a
last line, the empty range at the start of the first. -/
def SourceRange.ofLines (first : Int) (last : Option Int) : SourceRange :=
  ⟨⟨first, 0⟩, ⟨last.getD first, 0⟩⟩

/-- Whole lines up to a column of the last one. -/
def cutTail (last : Int) : List Text → Text
  | [] => []
  | [line] => line.sliceTo last
  | line :: next :: rest => line ++ '\n' :: cutTail last (next :: rest)

/-- Lines from a column of the first one up to a column of the last one. -/
def cutLines (first last : Int) : List Text → Text
  | [] => []
  | [line] => line.slice first last
  | line :: next :: rest => line.sliceFrom first ++ '\n' :: cutTail last (next :: rest)

/-- Whether the range starts at a line of the file and ends at the same or a
later one. -/
def SourceRange.Fits (range : SourceRange) (lines : List Text) : Prop :=
  1 ≤ range.start.line ∧ range.start.line ≤ range.stop.line ∧
    range.stop.line ≤ lines.length

instance (range : SourceRange) (lines : List Text) : Decidable (range.Fits lines) :=
  inferInstanceAs (Decidable (_ ∧ _ ∧ _))

/-- The exact source text of a range; empty when the range does not fit. -/
def SourceRange.slice (range : SourceRange) (lines : List Text) : Text :=
  if range.Fits lines then
    cutLines range.start.column range.stop.column
      ((lines.take range.stop.line.toNat).drop (range.start.line.toNat - 1))
  else []

theorem SourceRange.slice_of_not_fits {range : SourceRange} {lines : List Text}
    (h : ¬ range.Fits lines) : range.slice lines = [] := by
  rw [SourceRange.slice, if_neg h]

end DocWeave
