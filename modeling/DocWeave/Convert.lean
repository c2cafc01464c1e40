/-
Conversion of whole files.  The parser is given from outside; what it fails
with is passed on as it is, and nothing is written then.
-/
import DocWeave.Emission
import DocWeave.ModuleName

namespace DocWeave

structure Conversion where
  text : Text
  moduleName : ModuleName
  diagnostics : List Diagnostic
  deriving DecidableEq, Repr

/-- Why a file could not be converted. -/
inductive ConvertError (ε : Type)
  | parser (e : ε)
  | unhandled (e : UnhandledKind)
  deriving DecidableEq, Repr

/-- The line that names the module, where the source does not name it and the
options ask for one. -/
def moduleLines (options : Options) (name : ModuleName) : List Text :=
  if !name.explicit && options.emitModuleTag then
    [(documentModule name.name).renderInline]
  else []

/-- What is known about a source file before it is written. -/
def Context.ofSource (options : Options) (source path : Text) : Context :=
  { moduleName := some (ModuleName.resolve source path).name
    lines := source.lines
    options
    file := some path }

/-- Writes the statements of a source file. -/
def convertStatements (options : Options) (source path : Text) (stmts : List Stmt) :
    Except UnhandledKind Conversion := do
  let name := ModuleName.resolve source path
  let emission := emitScope (.ofSource options source path) [] none stmts
  let text ← emission.text
  return { text := Text.unlines (moduleLines options name ++ [text])
           moduleName := name
           diagnostics := emission.diagnostics }

/-- Parses and writes a source file. -/
def convertSource {ε : Type} (parse : Text → Except ε (List Stmt)) (options : Options)
    (source path : Text) : Except (ConvertError ε) Conversion :=
  match parse source with
  | .error e => .error (.parser e)
  | .ok stmts => (convertStatements options source path stmts).mapError .unhandled

/-- A file a documentation generator is about to read. -/
structure SourceEvent where
  path : Text
  source : Text
  deriving DecidableEq, Repr

/-- Converts the file of an event, and replaces its source if that succeeds. -/
def beforeParse {ε : Type} (parse : Text → Except ε (List Stmt)) (options : Options)
    (event : SourceEvent) : SourceEvent × Except (ConvertError ε) Conversion :=
  let result := convertSource parse options event.source event.path
  match result with
  | .ok conversion => ({ event with source := conversion.text }, result)
  | .error _ => (event, result)

end DocWeave
