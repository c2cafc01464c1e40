/-
When a file cannot be converted.  Of what a parser has found, only a statement
of an unknown kind can stop a conversion, and only where it is visited: in the
file, in a namespace that is reached through namespaces, or directly in a class
of one of these.  Collecting the shapes of a namespace stops at the same
statement as writing it.
-/
import DocWeave.Proofs.Convert.Relocation
import DocWeave.Proofs.Emission.SourceOrder
import DocWeave.Proofs.Outline.Selection

namespace DocWeave

/-- The lists of statements that are visited when a scope is written: its own,
the bodies of its classes, and all that is visited in its namespaces. -/
inductive Visits : List Stmt → List Stmt → Prop
  | scope (stmts : List Stmt) : Visits stmts stmts
  | classBody {stmts body : List Stmt} {head : ClassHead}
      (hmem : Stmt.classDecl head body ∈ stmts) : Visits stmts body
  | inside {stmts body members : List Stmt} {head : NamespaceHead}
      (hmem : Stmt.namespaceDecl head body ∈ stmts) (hbody : Visits body members) :
      Visits stmts members

def Step.unhandled? : Step → Option UnhandledKind
  | .unhandled e => some e
  | _ => none

theorem Step.unhandled?_eq_some_iff {step : Step} {e : UnhandledKind} :
    step.unhandled? = some e ↔ step = .unhandled e := by
  match step with
  | .unhandled _ => simp [Step.unhandled?]
  | .callable _ _ | .classStart _ _ | .classEnd _ _ | .openNamespace _ _ | .detached _ =>
      simp [Step.unhandled?]

/-- A run ends with the first failure among its steps. -/
theorem emit_failure (ctx : Context) (created : List Text) (steps : List Step) :
    (emit ctx created steps).failure = steps.findSome? Step.unhandled? := by
  induction steps generalizing created with
  | nil => rfl
  | cons step rest ih =>
      rcases step.handled_or_unhandled with ⟨e, rfl⟩ | hhandled
      · rfl
      · have hnone : step.unhandled? = none := by
          rw [Option.eq_none_iff_forall_ne_some]
          exact fun e he => hhandled e (Step.unhandled?_eq_some_iff.mp he)
        rw [emit_cons ctx created hhandled, List.findSome?_cons, hnone]
        exact ih _

theorem firstUnhandled?_ne_none_iff (stmts : List Stmt) :
    firstUnhandled? stmts ≠ none ↔ ∃ stmt ∈ stmts, stmt.unknownKind? ≠ none := by
  rw [ne_eq, firstUnhandled?_eq_none_iff]
  simp

theorem exists_visits_of_arisesIn {scope : Option Text} {stmts : List Stmt} {step : Step}
    (h : ArisesIn scope stmts step) {e : UnhandledKind} (hstep : step = .unhandled e) :
    ∃ members, Visits stmts members ∧ firstUnhandled? members = some e := by
  induction h with
  | unhandled hunhandled =>
      obtain rfl := Step.unhandled.inj hstep
      exact ⟨_, .scope _, hunhandled⟩
  | unhandledClass hmem hunhandled =>
      obtain rfl := Step.unhandled.inj hstep
      exact ⟨_, .classBody hmem, hunhandled⟩
  | inside hmem _ ih =>
      obtain ⟨members, hmembers, hunhandled⟩ := ih hstep
      exact ⟨members, .inside hmem hmembers, hunhandled⟩
  | _ => cases hstep

/-- What stops a scope is the first unknown kind of a list that is visited. -/
theorem exists_visits_of_findSome? {options : Options} {scope : Option Text}
    {stmts : List Stmt} {e : UnhandledKind}
    (h : (scopeSteps options scope stmts).findSome? Step.unhandled? = some e) :
    ∃ members, Visits stmts members ∧ firstUnhandled? members = some e := by
  obtain ⟨step, hstep, hunhandled⟩ := List.exists_of_findSome?_eq_some h
  exact exists_visits_of_arisesIn (arisesIn_of_mem_scopeSteps hstep)
    (Step.unhandled?_eq_some_iff.mp hunhandled)

/-- An unknown kind in a list that is visited stops the scope. -/
theorem exists_unhandled_of_visits {stmts members : List Stmt} (h : Visits stmts members)
    (hunhandled : firstUnhandled? members ≠ none) (options : Options) (scope : Option Text) :
    ∃ e, .unhandled e ∈ scopeSteps options scope stmts := by
  have hown : ∀ {stmts : List Stmt} (scope : Option Text), firstUnhandled? stmts ≠ none →
      ∃ e, .unhandled e ∈ scopeSteps options scope stmts := by
    intro stmts scope hne
    obtain ⟨e, he⟩ := Option.ne_none_iff_exists'.mp hne
    exact ⟨e, by rw [scopeSteps_of_unhandled he]; exact List.mem_cons_self⟩
  induction h generalizing scope with
  | scope stmts => exact hown scope hunhandled
  | @classBody stmts body head hmem =>
      by_cases hknown : firstUnhandled? stmts = none
      · obtain ⟨e, he⟩ := Option.ne_none_iff_exists'.mp hunhandled
        refine ⟨e, (mem_scopeSteps hknown).mpr (Or.inl ⟨_, hmem, _, rfl, ?_⟩)⟩
        rw [classEntry, he]
        exact List.mem_cons_self
      · exact hown scope hknown
  | @inside stmts body members head hmem _ ih =>
      by_cases hknown : firstUnhandled? stmts = none
      · obtain ⟨e, he⟩ := ih hunhandled (some (qualify scope head.name))
        exact ⟨e, (scopeSteps_namespaceDecl_within hknown hmem options scope).subset he⟩
      · exact hown scope hknown

/-- The failure of what can fail. -/
def failureOf {α : Type} : Except UnhandledKind α → Option UnhandledKind
  | .ok _ => none
  | .error e => some e

theorem failureOf_eq_some_iff {α : Type} {result : Except UnhandledKind α} {e : UnhandledKind} :
    failureOf result = some e ↔ result = .error e := by
  match result with
  | .ok _ => simp [failureOf]
  | .error _ => simp [failureOf]

theorem ClassEntry.steps_unhandled? (scope : Option Text) (c : ClassEntry) :
    (c.steps scope).findSome? Step.unhandled? = none := by
  rw [List.findSome?_eq_none_iff]
  intro step hstep
  rcases ClassEntry.mem_steps.mp hstep with rfl | ⟨method, -, rfl⟩ | rfl <;> rfl

mutual
/-- The shapes of an entry fail as its steps do, in whatever scopes. -/
theorem Entry.failureOf_shapes (options : Options) (lines : List Text)
    (scope scope' : Option Text) : (entry : Entry) →
    failureOf (entry.shapes options lines scope) =
      (entry.steps scope').findSome? Step.unhandled?
  | .callable _ => rfl
  | .classDecl c => (c.steps_unhandled? scope').symm
  | .namespaceDecl head members => by
      have hmembers := failureOf_shapesOf options lines (some (qualify scope head.decl.name))
        (some (qualify scope' head.decl.name)) members
      rw [Entry.shapes, Entry.steps, List.findSome?_cons]
      refine Eq.trans ?_ hmembers
      rcases hshapes : shapesOf options lines (some (qualify scope head.decl.name)) members
        with e | shapes <;> simp only [NamespaceHeader.of, hshapes] <;> rfl
  | .detached _ => rfl
  | .unhandled _ => rfl

/-- The shapes of a list of entries fail as its steps do. -/
theorem failureOf_shapesOf (options : Options) (lines : List Text)
    (scope scope' : Option Text) : (entries : List Entry) →
    failureOf (shapesOf options lines scope entries) =
      (stepsOf scope' entries).findSome? Step.unhandled?
  | [] => rfl
  | entry :: rest => by
      have hentry := entry.failureOf_shapes options lines scope scope'
      have hrest := failureOf_shapesOf options lines scope scope' rest
      rw [shapesOf, stepsOf, List.findSome?_append, ← hentry, ← hrest]
      rcases entry.shapes options lines scope with e | here
      · rfl
      · rcases shapesOf options lines scope rest with e | later <;> rfl
end

/-- Neither the options nor the name of a scope decide where its steps fail. -/
theorem scopeSteps_unhandled?_eq (options options' : Options) (scope scope' : Option Text)
    (stmts : List Stmt) :
    (scopeSteps options scope stmts).findSome? Step.unhandled? =
      (scopeSteps options' scope' stmts).findSome? Step.unhandled? := by
  let plain : Options := { keepDetached := false }
  have hplain : ∀ options scope, (scopeSteps options scope stmts).findSome? Step.unhandled? =
      (scopeSteps plain scope stmts).findSome? Step.unhandled? := by
    intro options scope
    have hskip : ∀ step : Step, (if step.isAttached then step.unhandled? else none) =
        step.unhandled? := by
      intro step
      cases step <;> rfl
    have hattached : plain.keepDetached = false := rfl
    rw [← scopeSteps_filter_isAttached options hattached, ← List.head?_filterMap,
      ← List.head?_filterMap, List.filterMap_filter, funext hskip]
  rw [hplain options, hplain options', scopeSteps, scopeSteps,
    ← failureOf_shapesOf plain [] scope scope, ← failureOf_shapesOf plain [] scope scope']

/-- A block that lines were added to one after another, none of them refused,
before it was sealed. -/
def DocBlock.Assembled (block : DocBlock) : Prop :=
  ∃ (entries : List (TagKind × Text)) (filled : DocBlock),
    entries.foldlM (fun b e => b.add e.1 e.2) DocBlock.empty = .ok filled ∧
      block = filled.seal

theorem DocBlock.foldlM_add_of_open {block : DocBlock} (hopen : block.isSealed = false)
    (entries : List (TagKind × Text)) :
    entries.foldlM (fun b e => b.add e.1 e.2) block =
      .ok { block with groups := entries.foldl (fun g e => g.insert e.1 e.2) block.groups } := by
  induction entries generalizing block with
  | nil => rfl
  | cons entry rest ih =>
      rw [List.foldlM_cons, DocBlock.add_of_open hopen]
      exact ih hopen

theorem DocBlock.assembled_ofEntries (entries : List (TagKind × Text)) :
    (DocBlock.ofEntries entries).Assembled :=
  ⟨entries, _, DocBlock.foldlM_add_of_open rfl entries, rfl⟩

theorem Step.assembled_of_mem_segments {ctx : Context} {created : List Text} {step : Step}
    {segment : Segment} (h : segment ∈ step.segments ctx created) {b : DocBlock}
    (hb : segment.block? = some b) : b.Assembled := by
  rcases Step.block_of_mem_segments h with hnone | ⟨entries, rfl⟩ | ⟨c, -, rfl⟩
  · rw [hb] at hnone
    cases hnone
  · exact Option.some.inj hb ▸ DocBlock.assembled_ofEntries entries
  · exact Option.some.inj hb ▸ DocBlock.assembled_ofEntries _

/-- What is true of the conversion of a file in which a parser has found some
statements. -/
structure FailsOnUnknownOnly {ε : Type} (parse : Text → Except ε (List Stmt))
    (options : Options) (source path : Text) (stmts : List Stmt) : Prop where
  fails_iff : (∃ error, convertSource parse options source path = .error error) ↔
    ∃ members, Visits stmts members ∧ ∃ stmt ∈ members, stmt.unknownKind? ≠ none
  /-- The failure is about the first unknown kind of a list that is visited. -/
  fails_with : ∀ error, convertSource parse options source path = .error error →
    ∃ members e, Visits stmts members ∧ firstUnhandled? members = some e ∧
      error = .unhandled e
  /-- No block that is printed has refused a line. -/
  blocks : ∀ b : DocBlock,
    b = documentModule (ModuleName.resolve source path).name ∨
      (∃ segment ∈ (emitScope (.ofSource options source path) [] none stmts).segments,
        segment.block? = some b) →
    b.Assembled
  /-- A file that cannot be converted is left as it is. -/
  source_kept : ∀ error, convertSource parse options source path = .error error →
    beforeParse parse options ⟨path, source⟩ = (⟨path, source⟩, .error error)
  source_replaced : ∀ conversion, convertSource parse options source path = .ok conversion →
    beforeParse parse options ⟨path, source⟩ = (⟨path, conversion.text⟩, .ok conversion)

theorem convertSource_error_iff {ε : Type} {parse : Text → Except ε (List Stmt)} {source : Text}
    {stmts : List Stmt} (hparse : parse source = .ok stmts) (options : Options) (path : Text)
    (error : ConvertError ε) :
    convertSource parse options source path = .error error ↔
      ∃ e, (scopeSteps options none stmts).findSome? Step.unhandled? = some e ∧
        error = .unhandled e := by
  have hfailure : (emitScope (.ofSource options source path) [] none stmts).failure =
      (scopeSteps options none stmts).findSome? Step.unhandled? := emit_failure _ _ _
  simp only [convertSource_of_parse hparse, Emission.text, hfailure]
  rcases (scopeSteps options none stmts).findSome? Step.unhandled? with _ | e
  · simp
  · simp [eq_comm]

theorem convertSource_fails_iff {ε : Type} {parse : Text → Except ε (List Stmt)} {source : Text}
    {stmts : List Stmt} (hparse : parse source = .ok stmts) (options : Options) (path : Text) :
    (∃ error, convertSource parse options source path = .error error) ↔
      ∃ members, Visits stmts members ∧ ∃ stmt ∈ members, stmt.unknownKind? ≠ none := by
  simp only [convertSource_error_iff hparse]
  constructor
  · rintro ⟨error, e, he, -⟩
    obtain ⟨members, hvisits, hfirst⟩ := exists_visits_of_findSome? he
    exact ⟨members, hvisits, (firstUnhandled?_ne_none_iff members).mp (by simp [hfirst])⟩
  · rintro ⟨members, hvisits, hunknown⟩
    obtain ⟨e, he⟩ := exists_unhandled_of_visits hvisits
      ((firstUnhandled?_ne_none_iff members).mpr hunknown) options none
    have hsome : ((scopeSteps options none stmts).findSome? Step.unhandled?).isSome :=
      List.findSome?_isSome_iff.mpr ⟨_, he, rfl⟩
    obtain ⟨first, hfirst⟩ := Option.isSome_iff_exists.mp hsome
    exact ⟨.unhandled first, first, hfirst, rfl⟩

/-- The shapes of a namespace can be collected exactly where the namespace can
be written, whatever is kept in either case. -/
theorem namespaceMembers_error_iff (head : NamespaceHead) (body : List Stmt)
    (parent parent' : Option Text) (doc : Option Comment) (options : Options)
    (lines : List Text) (ctx : Context) (created : List Text) (e : UnhandledKind) :
    namespaceMembers options lines parent head body = .error e ↔
      (emit ctx created (namespaceSteps ctx.options parent' ⟨head, doc⟩ body)).text =
        .error e := by
  have hfailure : (emit ctx created
      (namespaceSteps ctx.options parent' ⟨head, doc⟩ body)).failure =
        failureOf (namespaceMembers options lines parent head body) := by
    rw [emit_failure, namespaceSteps, Entry.steps, List.findSome?_cons, namespaceMembers,
      failureOf_shapesOf options lines _ none]
    exact scopeSteps_unhandled?_eq ctx.options options _ none body
  rw [← failureOf_eq_some_iff, ← hfailure, Emission.text]
  rcases (emit ctx created (namespaceSteps ctx.options parent' ⟨head, doc⟩ body)).failure
    with _ | failure <;> simp

/-- A file is converted unless a statement of an unknown kind is visited, and
the shapes of a namespace can be collected where the namespace can be written. -/
theorem convertSource_failsOnUnknownOnly {ε : Type} (parse : Text → Except ε (List Stmt))
    (options : Options) (source path : Text) (stmts : List Stmt)
    (hparse : parse source = .ok stmts) :
    FailsOnUnknownOnly parse options source path stmts ∧
      ∀ (head : NamespaceHead) (body : List Stmt) (parent parent' : Option Text)
        (doc : Option Comment) (options' : Options) (lines : List Text) (ctx : Context)
        (created : List Text) (e : UnhandledKind),
        namespaceMembers options' lines parent head body = .error e ↔
          (emit ctx created (namespaceSteps ctx.options parent' ⟨head, doc⟩ body)).text =
            .error e := by
  refine ⟨⟨convertSource_fails_iff hparse options path, ?_, ?_, ?_, ?_⟩,
    namespaceMembers_error_iff⟩
  · intro error herror
    obtain ⟨e, he, rfl⟩ := (convertSource_error_iff hparse options path error).mp herror
    obtain ⟨members, hvisits, hfirst⟩ := exists_visits_of_findSome? he
    exact ⟨members, e, hvisits, hfirst, rfl⟩
  · rintro b (rfl | ⟨segment, hsegment, hb⟩)
    · exact DocBlock.assembled_ofEntries _
    · obtain ⟨step, -, before, hstep⟩ := exists_step_of_mem_emit hsegment
      exact Step.assembled_of_mem_segments hstep hb
  · intro error herror
    simp only [beforeParse, herror]
  · intro conversion hconversion
    simp only [beforeParse, hconversion]

namespace FailureWitness

/-- A namespace with a class in which a statement of an unknown kind stands
behind another class, with one of its own that is never looked at. -/
def stmts : List Stmt :=
  [.namespaceDecl ⟨"Net".toList, .ofLines 1 (some 9)⟩
    [.classDecl { name := "Client".toList, range := .ofLines 2 (some 8) }
      [.classDecl { name := "Inner".toList, range := .ofLines 3 (some 5) }
          [.unknown "hidden".toList (.ofLines 4 none)],
        .unknown "bogus".toList (.ofLines 6 none)]]]

end FailureWitness

theorem convertSource_failsOnUnknownOnly_bogus :
    convertSource (ε := Empty) (fun _ => .ok FailureWitness.stmts) {} [] "net.bs".toList =
        .error (.unhandled ⟨"bogus".toList⟩) ∧
      FailsOnUnknownOnly (ε := Empty) (fun _ => .ok FailureWitness.stmts) {} []
        "net.bs".toList FailureWitness.stmts :=
  ⟨by rfl, (convertSource_failsOnUnknownOnly _ {} [] "net.bs".toList FailureWitness.stmts
    rfl).1⟩

end DocWeave
