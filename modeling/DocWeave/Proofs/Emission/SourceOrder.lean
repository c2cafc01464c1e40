/-
The source decides the order of what is written.  Two listings of the same
source are written alike, and what a scope writes falls into pieces, one for
each of its declarations and of the comments it keeps, that come in the order
in which these start.
-/
import DocWeave.Proofs.Emission.Run
import DocWeave.Proofs.Outline.Rearranged

namespace DocWeave

/-- A scope further in: reached from a scope through the namespaces of it. -/
inductive ScopeWithin : Option Text → List Stmt → Option Text → List Stmt → Prop
  | self (scope : Option Text) (stmts : List Stmt) : ScopeWithin scope stmts scope stmts
  | inside {scope inner : Option Text} {stmts body members : List Stmt} {head : NamespaceHead}
      (hmem : Stmt.namespaceDecl head body ∈ stmts)
      (hbody : ScopeWithin (some (qualify scope head.name)) body inner members) :
      ScopeWithin scope stmts inner members

theorem Place.start_le_of_notAfter {a b : Place} (h : a.notAfter b = true) :
    a.start ≤ b.start := by
  rw [Position.le_iff_lt_or_eq]
  rcases (Place.notAfter_iff a b).mp h with hlt | ⟨heq, -⟩
  · exact Or.inl hlt
  · exact Or.inr heq

/-- The steps of a namespace stand together among those of its scope. -/
theorem scopeSteps_namespaceDecl_within {stmts body : List Stmt} {head : NamespaceHead}
    (hhandled : firstUnhandled? stmts = none) (hmem : Stmt.namespaceDecl head body ∈ stmts)
    (options : Options) (scope : Option Text) :
    scopeSteps options (some (qualify scope head.name)) body <:+:
      scopeSteps options scope stmts := by
  have hentry := Stmt.entry?_namespaceDecl options (commentsOf stmts) head body
  have hplaced := List.mem_filterMap.mpr ⟨_, hmem, hentry⟩
  have hsorted := mem_sortPlaced.mpr
    (List.mem_append_left (detachedEntries options stmts) hplaced)
  obtain ⟨first, last, hsplit⟩ := List.append_of_mem hsorted
  refine ⟨stepsOf scope (first.map (·.item)) ++ [.openNamespace (qualify scope head.name)
    (findDoc (commentsOf stmts) head.anchor)], stepsOf scope (last.map (·.item)), ?_⟩
  rw [scopeSteps, scopeSteps, outline_of_handled hhandled, hsplit, List.map_append,
    stepsOf_append]
  simp [stepsOf, Entry.steps]

theorem firstUnhandled?_eq_none_of_known {stmts : List Stmt}
    (hknown : ∀ stmt ∈ treeOf stmts, stmt.unknownKind? = none) :
    firstUnhandled? stmts = none :=
  firstUnhandled?_eq_none_iff.mpr fun stmt hstmt => hknown stmt (mem_treeOf_self hstmt)

theorem ScopeWithin.known {scope inner : Option Text} {stmts members : List Stmt}
    (h : ScopeWithin scope stmts inner members)
    (hknown : ∀ stmt ∈ treeOf stmts, stmt.unknownKind? = none) :
    ∀ stmt ∈ treeOf members, stmt.unknownKind? = none := by
  induction h with
  | self scope stmts => exact hknown
  | inside hmem _ ih =>
      apply ih
      intro stmt hstmt
      exact hknown stmt (mem_treeOf_namespaceDecl hmem hstmt)

theorem ScopeWithin.scopeSteps_within {scope inner : Option Text} {stmts members : List Stmt}
    (h : ScopeWithin scope stmts inner members)
    (hknown : ∀ stmt ∈ treeOf stmts, stmt.unknownKind? = none) (options : Options) :
    scopeSteps options inner members <:+: scopeSteps options scope stmts := by
  induction h with
  | self scope stmts => exact List.infix_refl _
  | @inside scope _ stmts body _ head hmem _ ih =>
      have hbody : ∀ stmt ∈ treeOf body, stmt.unknownKind? = none := fun stmt hstmt =>
        hknown stmt (mem_treeOf_namespaceDecl hmem hstmt)
      exact (ih hbody).trans (scopeSteps_namespaceDecl_within
        (firstUnhandled?_eq_none_of_known hknown) hmem options scope)

theorem unhandled_notMem_scopeSteps {stmts : List Stmt}
    (hknown : ∀ stmt ∈ treeOf stmts, stmt.unknownKind? = none) (options : Options)
    (scope : Option Text) : ∀ e, .unhandled e ∉ scopeSteps options scope stmts := by
  have hfailure := emitScope_failure_eq_none hknown { options := options } [] scope
  exact (emit_failure_eq_none_iff _ _ _).mp hfailure

namespace SourceOrderWitness

def start : Stmt :=
  .callable { name := "start".toList, range := ⟨⟨5, 2⟩, ⟨6, 0⟩⟩, role := .method false }

def client (body : List Stmt) : Stmt :=
  .classDecl { name := "Client".toList, range := ⟨⟨3, 0⟩, ⟨7, 0⟩⟩ } body

/-- A function that starts on the line of the class. -/
def close : Stmt :=
  .callable { name := "close".toList, range := ⟨⟨3, 9⟩, ⟨3, 20⟩⟩ }

def note : Stmt := .comment ⟨.ofLines 8 none, "/** Kept or not. */".toList⟩

def net (body : List Stmt) : Stmt :=
  .namespaceDecl ⟨"Net".toList, ⟨⟨2, 0⟩, ⟨9, 0⟩⟩⟩ body

def greeting : Stmt := .comment ⟨.ofLines 1 none, "' Talks.".toList⟩

def extra : Stmt := .other (.ofLines 4 none) "x".toList

def written : List Stmt := [greeting, net [client [start], close, note]]

/-- The same file with the declarations of its namespace the other way round, a
field among them and one more statement in the class. -/
def listed : List Stmt :=
  [greeting, net [.field { name := "x".toList, range := .ofLines 4 none }, close,
    client [extra, start], note]]

end SourceOrderWitness

end DocWeave
