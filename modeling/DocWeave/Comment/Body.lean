/-
The body of a comment: what its author wrote, without the comment's own
characters.  Every line loses its blanks, one comment marker, a block closer
and a run of stars; the first line also loses a block opener.  Empty lines at
both ends of the body go, those in between stay.
-/
import DocWeave.Options
import DocWeave.Statement.Basic
import DocWeave.Unicode.Numeric

namespace DocWeave

/-- A text that consists of letters only, and of at least one. -/
def Text.isAlphabetic (t : Text) : Bool :=
  !t.isEmpty && t.all isLetter

/-- Whether a text goes on with a character of a word. -/
def goesOnAsWord : Text → Bool
  | [] => false
  | c :: _ => isAlphanumeric c || c == '_'

/-- Whether a text starts with a marker.  A marker made of letters is matched
in any case and has to be a whole word. -/
def startsWithMarker (marker t : Text) : Bool :=
  let head := t.take marker.length
  if marker.isAlphabetic then
    Text.upper head == marker.upper && !goesOnAsWord (t.drop marker.length)
  else head == marker

/-- Drops the first marker of the list that the text starts with. -/
def stripMarker (markers : List Text) (t : Text) : Text :=
  match markers.find? (startsWithMarker · t) with
  | some marker => Text.strip (t.drop marker.length)
  | none => t

/-- Drops a closer `*/` at the end, with the stars and blanks before it. -/
def dropCloser (t : Text) : Text :=
  match t.reverse with
  | '/' :: '*' :: rest => ((rest.dropWhile (· == '*')).dropWhile isBlank).reverse
  | _ => t

/-- Drops the stars in front, then the blanks around. -/
def dropStars (t : Text) : Text :=
  Text.strip (t.dropWhile (· == '*'))

/-- Drops an opener `/*` in front, with the stars after it. -/
def dropOpener : Text → Text
  | '/' :: '*' :: rest => dropStars rest
  | t => t

/-- What the author wrote on a line of a comment. -/
def bodyLine (markers : List Text) (first : Bool) (line : Text) : Text :=
  let body := dropStars (dropCloser (stripMarker markers line.strip))
  if first then dropOpener body else body

/-- Drops the empty lines at both ends. -/
def trimLines (ls : List Text) : List Text :=
  ((ls.dropWhile List.isEmpty).reverse.dropWhile List.isEmpty).reverse

/-- The body lines of a comment's text, before the empty ones at its ends go. -/
def rawBodyLines (markers : List Text) : List Text → List Text
  | [] => []
  | line :: rest => bodyLine markers true line :: rest.map (bodyLine markers false)

/-- The body of a comment's text. -/
def bodyOf (options : Options) (t : Text) : List Text :=
  trimLines (rawBodyLines options.commentMarkers t.lines)

/-- The body of a comment that may be missing; a missing one has none. -/
def docBody (options : Options) : Option Comment → List Text
  | none => []
  | some comment => bodyOf options comment.text

/-- Whether a comment opens as a doc block, with `/**`. -/
def Comment.isDocBlock (options : Options) (comment : Comment) : Bool :=
  let first := comment.text.takeWhile (· != '\n')
  "/**".toList.isPrefixOf (stripMarker options.commentMarkers (Text.strip first))

end DocWeave
