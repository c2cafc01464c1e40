/-
Tag lines: the lines of a comment body that speak of a parameter, the return
value or the parent class.  Such a line is an at sign, a tag word, a type in
braces that may be missing, a name where the tag has one, and a description.

Braces and brackets are matched by depth.  A clause that is never closed ends
at the next blank and marks the line as malformed; a line with a tag word
stays a tag line whatever follows the word.
-/
import DocWeave.Text.Case
import DocWeave.Unicode.Numeric

namespace DocWeave

/-- What a tag line speaks of. -/
inductive TagRole
  | param | returns | parent
  deriving DecidableEq, Repr

/-- The tag words, in lower case. -/
def tagWords : List (Text × TagRole) :=
  [("param".toList, .param), ("arg".toList, .param), ("argument".toList, .param),
    ("return".toList, .returns), ("returns".toList, .returns),
    ("extends".toList, .parent), ("augments".toList, .parent)]

/-- The role of a tag word, in any case. -/
def tagRole? (word : Text) : Option TagRole :=
  tagWords.lookup word.lower

/-- A tag line taken apart. -/
structure TagLine where
  role : TagRole
  /-- The line as it was written. -/
  raw : Text
  type : Option Text
  /-- The parameter's name, or the parent's. -/
  name : Option Text
  optional : Bool
  default : Option Text
  description : Text
  /-- A clause was not closed, or a parameter has no name. -/
  malformed : Bool
  deriving DecidableEq, Repr

/-- Whether a tag line carries a name, in any case. -/
def TagLine.names (tag : TagLine) (name : Text) : Bool :=
  tag.name.any (·.sameLower name)

/-- A character of an identifier. -/
def isIdentChar (c : Char) : Bool :=
  isAlphanumeric c || c == '_' || c == '$' || c == '.'

/-- The text up to the closer that matches an opener already read, and the
text after it.  `depth` counts the openers read since. -/
def closing? (opener closer : Char) (depth : Nat) : Text → Option (Text × Text)
  | [] => none
  | c :: rest =>
      if c == opener then
        (closing? opener closer (depth + 1) rest).map fun r => (c :: r.1, r.2)
      else if c == closer then
        match depth with
        | 0 => some ([], rest)
        | d + 1 => (closing? opener closer d rest).map fun r => (c :: r.1, r.2)
      else (closing? opener closer depth rest).map fun r => (c :: r.1, r.2)

/-- A clause between an opener and its closer, and what follows it. -/
structure Clause where
  inner : Text
  rest : Text
  /-- The closer is missing. -/
  broken : Bool
  deriving DecidableEq, Repr

/-- Reads a clause whose opener has been read; without a closer it ends at the
next blank. -/
def readClause (opener closer : Char) (t : Text) : Clause :=
  match closing? opener closer 0 t with
  | some (inner, rest) => ⟨inner, rest, false⟩
  | none => ⟨t.takeWhile (!isBlank ·), t.dropWhile (!isBlank ·), true⟩

/-- The type of a tag line, and what follows it. -/
structure TypePart where
  type : Option Text
  rest : Text
  broken : Bool
  deriving DecidableEq, Repr

/-- Reads a type in braces; a text that starts otherwise has none. -/
def readType : Text → TypePart
  | '{' :: t =>
      let clause := readClause '{' '}' t
      ⟨clause.inner.strip.given?, clause.rest.trimStart, clause.broken⟩
  | t => ⟨none, t, false⟩

/-- The name of a tag line, and what follows it. -/
structure NamePart where
  name : Option Text
  default : Option Text := none
  optional : Bool := false
  rest : Text
  broken : Bool := false
  deriving DecidableEq, Repr

def readIdent (t : Text) : NamePart :=
  { name := Text.given? (t.takeWhile isIdentChar), rest := t.dropWhile isIdentChar }

/-- The default of an optional parameter: what follows the first equals sign. -/
def clauseDefault? (inner : Text) : Option Text :=
  match inner.dropWhile (· != '=') with
  | [] => none
  | _ :: value => some (Text.strip value)

/-- Reads the name of a parameter, which stands in brackets when the parameter
is optional. -/
def readParamName : Text → NamePart
  | '[' :: t =>
      let clause := readClause '[' ']' t
      { name := Text.given? (Text.strip (clause.inner.takeWhile (· != '=')))
        default := clauseDefault? clause.inner
        optional := true
        rest := clause.rest
        broken := clause.broken }
  | t => readIdent t

/-- Reads the name a tag of some role has after its type: a parent that the
type names already is not read again, and a return value has no name. -/
def readName (role : TagRole) (type : Option Text) (t : Text) : NamePart :=
  match role with
  | .param => readParamName t
  | .returns => { name := none, rest := t }
  | .parent =>
      match type with
      | some parent => { name := some parent, rest := t }
      | none => readIdent t

/-- Reads a line as a tag line; a line without a tag word is none. -/
def TagLine.parse? (line : Text) : Option TagLine :=
  match line.strip with
  | '@' :: t =>
      (tagRole? (t.takeWhile isAlphanumeric)).map fun role =>
        let typed := readType (Text.trimStart (t.dropWhile isAlphanumeric))
        let named := readName role typed.type typed.rest
        { role
          raw := line
          type := typed.type
          name := named.name
          optional := named.optional
          default := named.default
          description := named.rest.strip
          malformed :=
            typed.broken || named.broken || (role == .param && named.name.isNone) }
  | _ => none

/-- Puts a description behind a dash.  One that starts with a dash stays as it
is, and a comma in front goes. -/
def formatDescription (t : Text) : Text :=
  match t.strip with
  | [] => []
  | '-' :: rest => '-' :: rest
  | ',' :: rest =>
      match Text.strip rest with
      | [] => []
      | shown => '-' :: ' ' :: shown
  | shown => '-' :: ' ' :: shown

/-- A line's head with its description behind it, if there is one. -/
def withDescription (head description : Text) : Text :=
  match formatDescription description with
  | [] => head
  | shown => head ++ ' ' :: shown

end DocWeave
