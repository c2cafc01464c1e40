/-
Steps: an outline unrolled into the order in which it is written.  Scopes are
spelled out as qualified names, so that each step can be written on its own.
-/
import DocWeave.Shape.Namespace

namespace DocWeave

/-- Where a callable stands: in a scope, or in the body of a class. -/
inductive Home
  | scope (name : Option Text)
  | classBody
  deriving DecidableEq, Repr

/-- One thing to write. -/
inductive Step
  | callable (home : Home) (c : Documented Callable)
  | classStart (scope : Option Text) (c : ClassEntry)
  | classEnd (scope : Option Text) (name : Text)
  /-- The containers of a namespace, as far as they are not there yet. -/
  | openNamespace (qualified : Text) (doc : Option Comment)
  | detached (c : Comment)
  /-- The point where the writing has to stop. -/
  | unhandled (e : UnhandledKind)
  deriving DecidableEq, Repr

/-- The steps of a class: its methods between its start and its end. -/
def ClassEntry.steps (scope : Option Text) (c : ClassEntry) : List Step :=
  .classStart scope c :: c.methods.map (.callable .classBody) ++
    [.classEnd scope c.head.decl.name]

mutual
def Entry.steps (scope : Option Text) : Entry → List Step
  | .callable c => [.callable (.scope scope) c]
  | .classDecl c => c.steps scope
  | .namespaceDecl head members =>
      .openNamespace (qualify scope head.decl.name) head.doc ::
        stepsOf (some (qualify scope head.decl.name)) members
  | .detached c => [.detached c]
  | .unhandled e => [.unhandled e]

def stepsOf (scope : Option Text) : List Entry → List Step
  | [] => []
  | entry :: rest => entry.steps scope ++ stepsOf scope rest
end

theorem stepsOf_append (scope : Option Text) (a b : List Entry) :
    stepsOf scope (a ++ b) = stepsOf scope a ++ stepsOf scope b := by
  induction a with
  | nil => rfl
  | cons entry rest ih => simp [stepsOf, ih]

def scopeSteps (options : Options) (scope : Option Text) (stmts : List Stmt) : List Step :=
  stepsOf scope (outline options stmts)

/-- The steps of a namespace statement with the comment that documents it. -/
def namespaceSteps (options : Options) (scope : Option Text) (head : Documented NamespaceHead)
    (body : List Stmt) : List Step :=
  (Entry.namespaceDecl head (outline options body)).steps scope

/-- The steps of a class statement with the comment that documents it. -/
def classSteps (scope : Option Text) (head : Documented ClassHead) (body : List Stmt) :
    List Step :=
  (classEntry head body).steps scope

end DocWeave
