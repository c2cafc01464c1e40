/-
Emission: writing steps as doc blocks and stub declarations.  A stub is the
least piece of code a documentation generator needs to see a declaration.

The only thing one step leaves for the next is the list of namespace
containers written so far, for each is written once per file.
-/
import DocWeave.Reconcile.Container
import DocWeave.Step

namespace DocWeave

/-- A piece of the written file. -/
inductive Segment
  /-- The block of a declaration or of a container. -/
  | block (b : DocBlock)
  /-- The block of a comment that belongs to no declaration. -/
  | detached (b : DocBlock)
  /-- A free function. -/
  | function (name : Text) (params : List Text)
  /-- A method, inside its class. -/
  | method (name : Text) (params : List Text)
  | classStart (name : Text) (parent : Option Text)
  | classEnd
  /-- The object that stands for a namespace. -/
  | container (qualified : Text)
  /-- The assignment that puts a declaration into its namespace. -/
  | member (scope name : Text)
  deriving DecidableEq, Repr

/-- A call signature with an empty body. -/
def stubText (name : Text) (params : List Text) : Text :=
  name ++ '(' :: ", ".toList.intercalate params ++ ") \x7b \x7d;\n".toList

def Segment.text : Segment → Text
  | .block b => b.render
  | .detached b => b.render
  | .function name params => "function ".toList ++ stubText name params
  | .method name params => stubText name params
  | .classStart name none => "class ".toList ++ name ++ " \x7b\n".toList
  | .classStart name (some parent) =>
      "class ".toList ++ name ++ " extends ".toList ++ parent ++ " \x7b\n".toList
  | .classEnd => "\x7d\n".toList
  | .container qualified =>
      match parentOf? qualified with
      | some _ => qualified ++ " = \x7b\x7d;".toList
      | none => "var ".toList ++ qualified ++ " = \x7b\x7d;".toList
  | .member scope name => scope ++ '.' :: name ++ " = ".toList ++ name ++ ";".toList

def segmentsText (segments : List Segment) : Text :=
  Text.unlines (segments.map Segment.text)

/-- What is known about the file that is being written. -/
structure Context where
  moduleName : Option Text := none
  lines : List Text := []
  options : Options := {}
  file : Option Text := none
  deriving DecidableEq, Repr

def Context.span (ctx : Context) (range : SourceRange) : Span :=
  .ofRange (some range) ctx.file

/-- The module and the namespace a callable belongs to.  A method belongs to
its class alone. -/
def Home.membership (moduleName : Option Text) : Home → Option Text × Option Text
  | .scope name => (moduleName, name)
  | .classBody => (none, none)

/-- The assignment that puts a name into a scope, if there is one. -/
def memberSegments (scope : Option Text) (name : Text) : List Segment :=
  ((scope.bind Text.given?).map (Segment.member · name)).toList

/-- The doc block of a callable in its place, with the warnings. -/
def Context.callableDoc (ctx : Context) (home : Home) (c : Documented Callable) :
    CallableDoc :=
  let membership := home.membership ctx.moduleName
  documentCallable ctx.options membership.1 membership.2
    (.of ctx.options ctx.lines c.decl) (docBody ctx.options c.doc)

/-- The stub of a callable.  A constructor is written with its own spelling. -/
def Callable.stub (options : Options) (c : Callable) : Segment :=
  let params := c.params.map Param.name
  match c.role with
  | .function => .function c.name params
  | .method _ =>
      .method (if options.isConstructor c.name then options.constructorSpelling else c.name)
        params

/-- The dotted beginnings of a name, from the shortest to the name itself. -/
def dottedStarts : Text → List Text
  | [] => [[]]
  | c :: rest =>
      if c == '.' then [] :: (dottedStarts rest).map (c :: ·)
      else (dottedStarts rest).map (c :: ·)

/-- The containers a namespace needs that are not written yet. -/
def missingContainers (created : List Text) (qualified : Text) : List Text :=
  (dottedStarts qualified).filter fun name => !created.contains name

def containerHeader (qualified : Text) : NamespaceHeader :=
  { name := qualified, qualified, parent := parentOf? qualified }

/-- The block and the container of one name.  The comment of a namespace goes
to the container of its full name. -/
def Context.containerSegments (ctx : Context) (qualified : Text) (doc : Option Comment)
    (name : Text) : List Segment :=
  let body := if name == qualified then docBody ctx.options doc else []
  [.block (documentNamespace ctx.moduleName (containerHeader name) body), .container name]

def Step.segments (ctx : Context) (created : List Text) : Step → List Segment
  | .callable home c =>
      [.block (ctx.callableDoc home c).block, c.decl.stub ctx.options] ++
        memberSegments (home.membership ctx.moduleName).2 c.decl.name
  | .classStart scope c =>
      let shape := ClassShape.of ctx.options ctx.lines c
      [.block (documentClass ctx.options ctx.moduleName scope shape
          (docBody ctx.options c.head.doc)),
        .classStart shape.name shape.parent]
  | .classEnd scope name => .classEnd :: memberSegments scope name
  | .openNamespace qualified doc =>
      (missingContainers created qualified).flatMap (ctx.containerSegments qualified doc)
  | .detached c => [.detached (documentDetached ctx.options c)]
  | .unhandled _ => []

/-- What a step remarks.  Only callables give rise to diagnostics. -/
def Step.diagnostics (ctx : Context) : Step → List Diagnostic
  | .callable home c =>
      (ctx.callableDoc home c).warnings.map
        (TagWarning.diagnostic c.decl.name (ctx.span c.decl.range) (some c.decl.describe))
  | _ => []

/-- The containers a step adds. -/
def Step.opened (created : List Text) : Step → List Text
  | .openNamespace qualified _ => missingContainers created qualified
  | _ => []

/-- What has been written, and the failure that stopped it if there was one. -/
structure Emission where
  segments : List Segment
  diagnostics : List Diagnostic
  /-- All namespace containers that exist now. -/
  created : List Text
  failure : Option UnhandledKind
  deriving DecidableEq, Repr

/-- Writes steps one after another, up to the first that cannot be handled. -/
def emit (ctx : Context) (created : List Text) : List Step → Emission
  | [] => ⟨[], [], created, none⟩
  | .unhandled e :: _ => ⟨[], [], created, some e⟩
  | step :: rest =>
      let later := emit ctx (created ++ step.opened created) rest
      { later with
        segments := step.segments ctx created ++ later.segments
        diagnostics := step.diagnostics ctx ++ later.diagnostics }

/-- What two emissions have written, one after the other. -/
def Emission.andThen (first second : Emission) : Emission :=
  { second with
    segments := first.segments ++ second.segments
    diagnostics := first.diagnostics ++ second.diagnostics }

/-- Steps can be written in two goes, the second starting from the containers
the first has left. -/
theorem emit_append (ctx : Context) (created : List Text) (a b : List Step)
    (h : (emit ctx created a).failure = none) :
    emit ctx created (a ++ b) =
      (emit ctx created a).andThen (emit ctx (emit ctx created a).created b) := by
  induction a generalizing created with
  | nil => rfl
  | cons step rest ih =>
      cases step with
      | unhandled e => simp [emit] at h
      | _ =>
          simp only [emit] at h
          simp [emit, Emission.andThen, ih _ h]

def emitScope (ctx : Context) (created : List Text) (scope : Option Text)
    (stmts : List Stmt) : Emission :=
  emit ctx created (scopeSteps ctx.options scope stmts)

/-- The text that was written, unless the writing had to stop. -/
def Emission.text (e : Emission) : Except UnhandledKind Text :=
  match e.failure with
  | some failure => .error failure
  | none => .ok (segmentsText e.segments)

/-- What is written to its end is the joined text of its segments. -/
theorem Emission.text_of_success {e : Emission} (h : e.failure = none) :
    e.text = .ok (Text.unlines (e.segments.map Segment.text)) := by
  rw [Emission.text, h]
  rfl

end DocWeave
