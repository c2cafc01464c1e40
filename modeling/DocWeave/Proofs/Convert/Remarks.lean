/-
The remarks on a whole file.  They are the remarks on its callables, one
callable after another in the order in which the callables are written, and
nothing else gives rise to any: neither the classes and namespaces around them
nor the containers that happen to be there already.
-/
import DocWeave.Proofs.Convert.Relocation
import DocWeave.Proofs.Emission.Containers
import DocWeave.Proofs.Outline.Selection

namespace DocWeave

/-- The methods of a class body with the comments of that body, in body order. -/
def methodsOf (body : List Stmt) : List (Documented Callable) :=
  (body.filterMap Stmt.method?).map fun m => ⟨m, findDoc (commentsOf body) m.anchor⟩

theorem mem_declarations {stmts : List Stmt} {stmt : Stmt} (h : stmt ∈ declarations stmts) :
    stmt ∈ stmts := by
  obtain ⟨placed, hplaced, rfl⟩ := List.mem_map.mp h
  obtain ⟨other, hother, hplace⟩ := List.mem_filterMap.mp (mem_sortPlaced.mp hplaced)
  obtain ⟨place, -, rfl⟩ := Option.map_eq_some_iff.mp hplace
  exact hother

mutual
/-- The callables of a declaration in a scope with some comments. -/
def Stmt.callables (comments : List Comment) : Stmt → List (Documented Callable)
  | .callable c => [⟨c, findDoc comments c.anchor⟩]
  | .classDecl _ body => methodsOf body
  | .namespaceDecl _ body => callablesOf body
  | _ => []
termination_by stmt => sizeOf stmt

/-- The callables of a scope, its declarations taken in the order they start. -/
def callablesOf (stmts : List Stmt) : List (Documented Callable) :=
  (declarations stmts).attach.flatMap fun stmt => stmt.val.callables (commentsOf stmts)
termination_by sizeOf stmts
decreasing_by
  exact List.sizeOf_lt_of_mem (mem_declarations stmt.property)
end

theorem callablesOf_eq (stmts : List Stmt) :
    callablesOf stmts = (declarations stmts).flatMap (Stmt.callables (commentsOf stmts)) := by
  rw [callablesOf]
  simp

/-- The callable a step writes. -/
def Step.callable? : Step → Option (Documented Callable)
  | .callable _ c => some c
  | _ => none

/-- Whether the steps of a statement can all be handled. -/
def Stmt.Handled (options : Options) (comments : List Comment) (scope : Option Text)
    (stmt : Stmt) : Prop :=
  ∀ placed, stmt.entry? options comments = some placed →
    ∀ e, .unhandled e ∉ placed.item.steps scope

/-- The steps of a statement write its callables, at its place. -/
def WritesCallables (options : Options) (comments : List Comment) (scope : Option Text)
    (stmt : Stmt) : Prop :=
  (stmt.entry? options comments).map
      (Placed.map fun entry => (entry.steps scope).filterMap Step.callable?) =
    stmt.place?.map fun place => ⟨place, stmt.callables comments⟩

theorem handled_of_scopeSteps {options : Options} {scope : Option Text} {stmts : List Stmt}
    (hhandled : ∀ e, .unhandled e ∉ scopeSteps options scope stmts) {stmt : Stmt}
    (hstmt : stmt ∈ stmts) : stmt.Handled options (commentsOf stmts) scope := by
  intro placed hentry e he
  have hknown := firstUnhandled?_eq_none_of_scopeSteps hhandled
  exact hhandled e ((mem_scopeSteps hknown).mpr (Or.inl ⟨stmt, hstmt, placed, hentry, he⟩))

/-- The callables come in the order of the steps, for the same places sort both. -/
theorem scopeSteps_callables_of_writes {options : Options} {scope : Option Text}
    {stmts : List Stmt} (hhandled : ∀ e, .unhandled e ∉ scopeSteps options scope stmts)
    (hstmts : ∀ stmt ∈ stmts, WritesCallables options (commentsOf stmts) scope stmt) :
    (scopeSteps options scope stmts).filterMap Step.callable? = callablesOf stmts := by
  have hplaced : (stmts.filterMap (Stmt.entry? options (commentsOf stmts))).map
      (Placed.map fun entry => (entry.steps scope).filterMap Step.callable?) =
        (stmts.filterMap fun stmt => stmt.place?.map (⟨·, stmt⟩)).map
          (Placed.map (Stmt.callables (commentsOf stmts))) := by
    rw [List.map_filterMap, List.map_filterMap]
    apply List.filterMap_congr
    intro stmt hstmt
    rw [hstmts stmt hstmt, Option.map_map]
    rfl
  have hsorted := congrArg
    (List.flatMap fun x : Placed (List (Documented Callable)) => x.item)
    (congrArg sortPlaced hplaced)
  rw [sortPlaced_map, sortPlaced_map, List.flatMap_map, List.flatMap_map] at hsorted
  rw [scopeSteps_filterMap (fun _ => rfl) (firstUnhandled?_eq_none_of_scopeSteps hhandled),
    callablesOf_eq, declarations, List.flatMap_map]
  exact hsorted

theorem ClassEntry.callables_steps (scope : Option Text) (c : ClassEntry) :
    (c.steps scope).filterMap Step.callable? = c.methods := by
  rw [ClassEntry.steps, List.cons_append, List.filterMap_cons_none rfl, List.filterMap_append,
    List.filterMap_map]
  exact (List.append_nil _).trans List.filterMap_some

theorem Stmt.writesCallables {options : Options} (stmt : Stmt) :
    ∀ comments scope, stmt.Handled options comments scope →
      WritesCallables options comments scope stmt := by
  induction stmt using Stmt.treeInduction with
  | callable c =>
      intro comments scope _
      simp only [WritesCallables, Stmt.callables]
      rfl
  | classDecl head body _ =>
      intro comments scope hhandled
      have hknown : firstUnhandled? body = none := by
        rw [Option.eq_none_iff_forall_ne_some]
        intro e he
        refine hhandled _ rfl e ?_
        rw [classEntry, he]
        exact List.mem_cons_self
      have hmethods := ClassEntry.callables_steps scope
        (.of ⟨head, findDoc comments head.anchor⟩ body)
      simp only [WritesCallables, Stmt.entry?, classEntry, hknown, Option.map_some, Placed.map,
        Entry.steps, hmethods, Stmt.callables]
      rfl
  | namespaceDecl head body ih =>
      intro comments scope hhandled
      have hbody : ∀ e, .unhandled e ∉
          scopeSteps options (some (qualify scope head.name)) body := by
        intro e he
        refine hhandled _ (Stmt.entry?_namespaceDecl options comments head body) e ?_
        rw [Entry.steps]
        exact List.mem_cons_of_mem _ he
      have hcallables := scopeSteps_callables_of_writes hbody fun stmt hstmt =>
        ih stmt hstmt (commentsOf body) _ (handled_of_scopeSteps hbody hstmt)
      rw [scopeSteps] at hcallables
      simp only [WritesCallables, Stmt.entry?_namespaceDecl, Option.map_some, Placed.map,
        Entry.steps, List.filterMap_cons, Step.callable?, hcallables, Stmt.callables]
      rfl
  | _ => exact fun _ _ _ => rfl

/-- A scope that can be handled writes its callables in order. -/
theorem scopeSteps_callables {options : Options} {scope : Option Text} {stmts : List Stmt}
    (hhandled : ∀ e, .unhandled e ∉ scopeSteps options scope stmts) :
    (scopeSteps options scope stmts).filterMap Step.callable? = callablesOf stmts :=
  scopeSteps_callables_of_writes hhandled fun stmt hstmt =>
    stmt.writesCallables _ scope (handled_of_scopeSteps hhandled hstmt)

/-- The remarks on a callable: what documenting it for some module and namespace
adds to a sink. -/
def Context.remarks (ctx : Context) (moduleName scope : Option Text)
    (c : Documented Callable) : List Diagnostic :=
  let documented := documentCallableInto ctx.options moduleName scope
    (.of ctx.options ctx.lines c.decl) (docBody ctx.options c.doc) (ctx.span c.decl.range)
    (some c.decl.describe) (some [])
  documented.2.getD []

def Segment.isStub : Segment → Bool
  | .function _ _ => true
  | .method _ _ => true
  | _ => false

theorem Step.diagnostics_eq (ctx : Context) (moduleName scope : Option Text) (step : Step) :
    step.diagnostics ctx = step.callable?.toList.flatMap (ctx.remarks moduleName scope) := by
  match step with
  | .callable home c => exact (List.flatMap_singleton _ _).symm
  | .classStart _ _ | .classEnd _ _ | .openNamespace _ _ | .detached _ | .unhandled _ => rfl

theorem memberSegments_isStub (scope : Option Text) (name : Text) :
    (memberSegments scope name).filter Segment.isStub = [] := by
  rw [memberSegments]
  cases scope.bind Text.given? <;> rfl

theorem Callable.stub_isStub (options : Options) (c : Callable) :
    (c.stub options).isStub = true := by
  rw [Callable.stub]
  split <;> rfl

/-- A step writes the stub of its callable, and no other. -/
theorem Step.segments_filter_isStub (ctx : Context) (step : Step) (created : List Text) :
    (step.segments ctx created).filter Segment.isStub =
      step.callable?.toList.map fun c => c.decl.stub ctx.options := by
  match step with
  | .callable home c =>
      rw [Step.segments, List.filter_append, memberSegments_isStub, List.append_nil,
        List.filter_cons_of_neg (by simp [Segment.isStub]),
        List.filter_cons_of_pos (Callable.stub_isStub ctx.options c.decl)]
      rfl
  | .classEnd scope name =>
      rw [Step.segments, List.filter_cons_of_neg (by simp [Segment.isStub]),
        memberSegments_isStub]
      rfl
  | .openNamespace qualified doc =>
      change List.filter Segment.isStub _ = []
      rw [List.filter_eq_nil_iff]
      intro segment hsegment
      rcases mem_openNamespace_segments hsegment with ⟨entries, rfl⟩ | ⟨name, rfl⟩ <;>
        simp [Segment.isStub]
  | .classStart _ _ | .detached _ | .unhandled _ => rfl

theorem emit_diagnostics_of_callables {steps : List Step}
    (hhandled : ∀ e, .unhandled e ∉ steps) (ctx : Context) (moduleName scope : Option Text)
    (created : List Text) :
    (emit ctx created steps).diagnostics =
      (steps.filterMap Step.callable?).flatMap (ctx.remarks moduleName scope) := by
  rw [emit_diagnostics hhandled, List.filterMap_eq_flatMap_toList, List.flatMap_assoc,
    funext (Step.diagnostics_eq ctx moduleName scope)]

theorem emit_filter_isStub {steps : List Step} (hhandled : ∀ e, .unhandled e ∉ steps)
    (ctx : Context) (created : List Text) :
    (emit ctx created steps).segments.filter Segment.isStub =
      (steps.filterMap Step.callable?).map fun c => c.decl.stub ctx.options := by
  rw [emit_segments_filter (Step.segments_filter_isStub ctx) hhandled,
    List.filterMap_eq_flatMap_toList, List.map_flatMap]

/-- A remark says where it comes from and which callable it is about. -/
theorem Context.mem_remarks {ctx : Context} {moduleName scope : Option Text}
    {c : Documented Callable} {d : Diagnostic} (h : d ∈ ctx.remarks moduleName scope c) :
    d.phase = some "reconcile".toList ∧ d.span = .ofRange (some c.decl.range) ctx.file ∧
      d.notes = [c.decl.describe] := by
  obtain ⟨warning, -, rfl⟩ := List.mem_map.mp h
  have hnote : Text.given? c.decl.describe = some c.decl.describe :=
    (Text.given?_eq_some_iff _ _).mpr ⟨rfl, c.decl.describe_ne_nil⟩
  refine ⟨rfl, rfl, ?_⟩
  rw [TagWarning.diagnostic, Option.bind_some, hnote]
  rfl

/-- What is true of the remarks made while a file is converted. -/
structure RemarksInOrder (options : Options) (source path : Text) (stmts : List Stmt)
    (conversion : Conversion) : Prop where
  text : conversion.text = Text.unlines (moduleLines options conversion.moduleName ++
    [Text.unlines
      ((emitScope (.ofSource options source path) [] none stmts).segments.map Segment.text)])
  /-- The callables are listed in the order in which they are written. -/
  stubs : (emitScope (.ofSource options source path) [] none stmts).segments.filter
      Segment.isStub =
    (callablesOf stmts).map fun c => c.decl.stub options
  /-- Documenting the callables gives all remarks, whatever they are documented
  as members of. -/
  remarks : ∀ moduleName scope, conversion.diagnostics =
    (callablesOf stmts).flatMap ((Context.ofSource options source path).remarks moduleName scope)
  labelled : ∀ moduleName scope, ∀ c ∈ callablesOf stmts,
    ∀ d ∈ (Context.ofSource options source path).remarks moduleName scope c,
      d.phase = some "reconcile".toList ∧ d.span = .ofRange (some c.decl.range) (some path) ∧
        d.notes = [c.decl.describe]
  /-- Containers that are already there make no difference. -/
  any_created : ∀ created,
    (emitScope (Context.ofSource options source path) created none stmts).diagnostics =
      conversion.diagnostics

/-- The remarks on a file that is converted are those on its callables, in the
order in which these are written. -/
theorem convertSource_remarksInOrder {ε : Type} (parse : Text → Except ε (List Stmt))
    (options : Options) (source path : Text) (stmts : List Stmt) (conversion : Conversion)
    (hparse : parse source = .ok stmts)
    (hconvert : convertSource parse options source path = .ok conversion) :
    RemarksInOrder options source path stmts conversion := by
  let ctx := Context.ofSource options source path
  rw [convertSource_of_parse hparse] at hconvert
  have hsuccess : (emitScope ctx [] none stmts).failure = none := by
    match hfailure : (emitScope ctx [] none stmts).failure with
    | none => rfl
    | some e =>
        simp only [Emission.text, ctx, hfailure] at hconvert
        cases hconvert
  simp only [ctx, Emission.text_of_success hsuccess] at hconvert
  obtain rfl := Except.ok.inj hconvert
  have hhandled := (emit_failure_eq_none_iff _ _ _).mp hsuccess
  have hcallables : (scopeSteps ctx.options none stmts).filterMap Step.callable? =
      callablesOf stmts := scopeSteps_callables hhandled
  have hremarks : ∀ moduleName scope created, (emitScope ctx created none stmts).diagnostics =
      (callablesOf stmts).flatMap (ctx.remarks moduleName scope) := by
    intro moduleName scope created
    rw [emitScope, emit_diagnostics_of_callables hhandled ctx moduleName scope, hcallables]
  exact
    { text := rfl
      stubs := (emit_filter_isStub hhandled ctx []).trans (congrArg _ hcallables)
      remarks := fun moduleName scope => hremarks moduleName scope []
      labelled := fun _ _ _ _ _ hd => Context.mem_remarks hd
      any_created := fun created =>
        (hremarks none none created).trans (hremarks none none []).symm }

namespace RemarksWitness

/-- A comment that names a parameter no callable of the file has. -/
def stray (line : Int) : Stmt := .comment ⟨.ofLines line none, "' @param gone".toList⟩

/-- A namespace with a class and a function, listed in front of the function the
file starts with.  The comment of the field in the class reads as a stray tag
line as well, but no remark is made on a field. -/
def stmts : List Stmt :=
  [.namespaceDecl ⟨"Net".toList, .ofLines 4 (some 14)⟩
      [stray 11, .callable { name := "last".toList, range := .ofLines 12 none },
        .classDecl { name := "Client".toList, range := .ofLines 5 (some 10) }
          [stray 6, .field { name := "host".toList, range := .ofLines 7 none },
            stray 8, .callable
              { name := "send".toList, range := .ofLines 9 none, role := .method false }]],
    stray 1, .callable { name := "first".toList, range := .ofLines 2 none }]

end RemarksWitness

theorem convertSource_remarksInOrder_net :
    ∃ c, convertSource (ε := Empty) (fun _ => .ok RemarksWitness.stmts) {} [] "net.bs".toList =
        .ok c ∧
      c.diagnostics.map Diagnostic.notes =
        [["function first @ 2:0-2:0".toList], ["method send @ 9:0-9:0".toList],
          ["function last @ 12:0-12:0".toList]] ∧
      RemarksInOrder {} [] "net.bs".toList RemarksWitness.stmts c := by
  obtain ⟨c, hc, hnotes⟩ : ∃ c, convertSource (ε := Empty) (fun _ => .ok RemarksWitness.stmts)
      {} [] "net.bs".toList = .ok c ∧ c.diagnostics.map Diagnostic.notes =
        [["function first @ 2:0-2:0".toList], ["method send @ 9:0-9:0".toList],
          ["function last @ 12:0-12:0".toList]] := by
    refine ⟨_, rfl, ?_⟩
    decide +kernel
  exact ⟨c, hc, hnotes, convertSource_remarksInOrder _ {} [] "net.bs".toList
    RemarksWitness.stmts c rfl hc⟩

end DocWeave
