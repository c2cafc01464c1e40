/-
The doc block of a callable.  The author's tag lines are claimed by the
parameters, in the order of declaration and each line once, and by the return
value.  Parameter lines nobody claims are dropped with a warning if they name
no parameter at all or one that has its line already; a line that names
something else stays as text, also with a warning.  Of several return lines
the first counts.
-/
import DocWeave.Diagnostic
import DocWeave.Reconcile.Lines
import DocWeave.Statement.Describe
import DocWeave.Tag.Block

namespace DocWeave

/-- A line of a comment body, with the tag it was read as. -/
structure BodyLine where
  text : Text
  tag : Option TagLine
  deriving DecidableEq, Repr

def BodyLine.read (line : Text) : BodyLine :=
  ⟨line, TagLine.parse? line⟩

def BodyLine.hasRole (line : BodyLine) (role : TagRole) : Bool :=
  line.tag.any (·.role == role)

/-- Whether a line is the parameter line of a name. -/
def BodyLine.isParamNamed (name : Text) (line : BodyLine) : Bool :=
  line.tag.any fun tag => tag.role == .param && tag.names name

/-- What an author is told about a tag line. -/
inductive TagWarning
  /-- A parameter line without a name was dropped. -/
  | malformedParam
  /-- A second line for a parameter was dropped. -/
  | duplicateParam (name : Text)
  /-- A parameter line names no parameter. -/
  | unknownParam (name : Text)
  /-- A second return line was dropped. -/
  | extraReturn
  deriving DecidableEq, Repr

def TagWarning.code : TagWarning → Text
  | .malformedParam => "malformed-param-tag".toList
  | .duplicateParam _ => "duplicate-param-tag".toList
  | .unknownParam _ => "unknown-param-tag".toList
  | .extraReturn => "duplicate-return-tag".toList

def TagWarning.message (callable : Text) : TagWarning → Text
  | .malformedParam =>
      "malformed @param in docs of '".toList ++ callable ++ "' dropped".toList
  | .duplicateParam name =>
      "duplicate @param for '".toList ++ name ++ "' in docs of '".toList ++ callable ++
        "' dropped".toList
  | .unknownParam name =>
      "@param '".toList ++ name ++ "' does not name a parameter of '".toList ++ callable ++
        "'".toList
  | .extraReturn =>
      "extra @return in docs of '".toList ++ callable ++ "' dropped".toList

/-- Whether the line a warning is about is dropped. -/
def TagWarning.drops : TagWarning → Bool
  | .unknownParam _ => false
  | _ => true

/-- The diagnostic of a warning, with the callable's description as its note. -/
def TagWarning.diagnostic (callable : Text) (span : Span) (subject : Option Text)
    (warning : TagWarning) : Diagnostic :=
  { message := warning.message callable
    code := some warning.code
    phase := some "reconcile".toList
    span
    notes := (subject.bind Text.given?).toList }

/-- The lines of the parameters, each from the first unclaimed line that names
it, and the body lines left over. -/
def claimParams : List Parameter → List BodyLine → List Text × List BodyLine
  | [], pool => ([], pool)
  | p :: rest, pool =>
      let claimed := pool.find? (BodyLine.isParamNamed p.name)
      let later := claimParams rest (pool.eraseP (BodyLine.isParamNamed p.name))
      (paramLine p (claimed.bind BodyLine.tag) :: later.1, later.2)

/-- The warning about a parameter line nobody claimed. -/
def leftoverWarning? (parameters : List Parameter) (line : BodyLine) : Option TagWarning :=
  match line.tag with
  | none => none
  | some tag =>
      if tag.role == .param then
        match tag.name with
        | none => some .malformedParam
        | some name =>
            if parameters.any (·.name.sameLower name) then some (.duplicateParam name)
            else some (.unknownParam name)
      else none

/-- Whether a line that no parameter claimed stays as text. -/
def staysText (parameters : List Parameter) (line : BodyLine) : Bool :=
  !line.hasRole .returns && !(leftoverWarning? parameters line).any TagWarning.drops

/-- The doc block of a callable and the warnings that came up. -/
structure CallableDoc where
  block : DocBlock
  warnings : List TagWarning
  deriving DecidableEq, Repr

/-- The lines a role adds: a method may override another, and may be a
constructor. -/
def roleEntries (options : Options) (s : Signature) : List (TagKind × Text) :=
  match s.role with
  | .function => []
  | .method overrides =>
      (if overrides then [(.override, "@override".toList)] else []) ++
        (if options.isConstructor s.name then [(.constructor, "@constructor".toList)]
          else [])

/-- The line that marks a declaration as private. -/
def accessEntries (options : Options) (name : Text) (visibility : Visibility) :
    List (TagKind × Text) :=
  if isPrivate options name visibility then [(.access, "@access private".toList)] else []

def memberEntries (moduleName scope : Option Text) : List (TagKind × Text) :=
  ((memberLine? moduleName scope).map (TagKind.memberOf, ·)).toList

/-- Reconciles the body of a comment with the callable it documents. -/
def documentCallable (options : Options) (moduleName scope : Option Text)
    (s : Signature) (body : List Text) : CallableDoc :=
  let pool := body.map BodyLine.read
  let (params, left) := claimParams s.parameters pool
  let returned := left.find? (·.hasRole .returns)
  let extra := (left.filter (·.hasRole .returns)).drop 1
  let text := (left.filter (staysText s.parameters)).map BodyLine.text
  { block := .ofEntries
      (text.map (TagKind.text, ·) ++ params.map (TagKind.param, ·) ++
        accessEntries options s.name s.visibility ++
        [(.returns, returnLine s.returnType (returned.bind BodyLine.tag))] ++
        memberEntries moduleName scope ++ roleEntries options s)
    warnings :=
      left.filterMap (leftoverWarning? s.parameters) ++ extra.map fun _ => .extraReturn }

/-- The doc block of a callable; its diagnostics are added to a sink if one is
given. -/
def documentCallableInto (options : Options) (moduleName scope : Option Text)
    (s : Signature) (body : List Text) (span : Span) (subject : Option Text)
    (sink : Option (List Diagnostic)) : DocBlock × Option (List Diagnostic) :=
  let doc := documentCallable options moduleName scope s body
  (doc.block,
    sink.map (· ++ doc.warnings.map (TagWarning.diagnostic s.name span subject)))

end DocWeave
