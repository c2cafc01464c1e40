/-
How a run over steps goes: step by step until one cannot be handled.  A run
succeeds exactly when there is no such step, and the statements of a scope
give none when every kind in their tree is known.
-/
import DocWeave.Emission
import DocWeave.Proofs.Outline.Trees

namespace DocWeave

/-- A step that can be handled is written, and the run goes on. -/
theorem emit_cons (ctx : Context) (created : List Text) {step : Step}
    (hstep : ∀ e, step ≠ .unhandled e) (rest : List Step) :
    emit ctx created (step :: rest) =
      let later := emit ctx (created ++ step.opened created) rest
      { later with
        segments := step.segments ctx created ++ later.segments
        diagnostics := step.diagnostics ctx ++ later.diagnostics } := by
  cases step with
  | unhandled e => exact absurd rfl (hstep e)
  | _ => rfl

theorem Step.handled_or_unhandled (step : Step) :
    (∃ e, step = .unhandled e) ∨ ∀ e, step ≠ .unhandled e := by
  cases step with
  | unhandled e => exact Or.inl ⟨e, rfl⟩
  | _ => exact Or.inr fun e h => nomatch h

theorem emit_failure_eq_none_iff (ctx : Context) (created : List Text) (steps : List Step) :
    (emit ctx created steps).failure = none ↔ ∀ e, .unhandled e ∉ steps := by
  induction steps generalizing created with
  | nil => simp [emit]
  | cons step rest ih =>
      rcases step.handled_or_unhandled with ⟨e, rfl⟩ | hstep
      · constructor
        · intro h
          cases h
        · intro h
          exact absurd List.mem_cons_self (h e)
      · rw [emit_cons ctx created hstep]
        simp [ih, fun e => Ne.symm (hstep e)]

/-- Whatever a run writes, one of its steps writes. -/
theorem exists_step_of_mem_emit {ctx : Context} {created : List Text} {steps : List Step}
    {segment : Segment} (h : segment ∈ (emit ctx created steps).segments) :
    ∃ step ∈ steps, ∃ before, segment ∈ step.segments ctx before := by
  induction steps generalizing created with
  | nil => cases h
  | cons step rest ih =>
      rcases step.handled_or_unhandled with ⟨e, rfl⟩ | hstep
      · cases h
      · rw [emit_cons ctx created hstep] at h
        rcases List.mem_append.mp h with hhere | hlater
        · exact ⟨step, List.mem_cons_self, created, hhere⟩
        · obtain ⟨other, hother, before, hsegment⟩ := ih hlater
          exact ⟨other, List.mem_cons_of_mem step hother, before, hsegment⟩

theorem handled_cons {step : Step} {rest : List Step}
    (h : ∀ e, .unhandled e ∉ step :: rest) :
    (∀ e, step ≠ .unhandled e) ∧ ∀ e, .unhandled e ∉ rest := by
  constructor
  · rintro e rfl
    exact h e List.mem_cons_self
  · intro e he
    exact h e (List.mem_cons_of_mem step he)

/-- The segments of one sort in a run are those of its steps, where the
containers written so far do not matter for them. -/
theorem emit_segments_filter {ctx : Context} {p : Segment → Bool} {read : Step → List Segment}
    (hread : ∀ step created, (step.segments ctx created).filter p = read step)
    {steps : List Step} (hhandled : ∀ e, .unhandled e ∉ steps) (created : List Text) :
    (emit ctx created steps).segments.filter p = steps.flatMap read := by
  induction steps generalizing created with
  | nil => rfl
  | cons step rest ih =>
      obtain ⟨hstep, hrest⟩ := handled_cons hhandled
      simp only [emit_cons ctx created hstep, List.filter_append, hread, ih hrest,
        List.flatMap_cons]

/-- A run remarks what its steps remark. -/
theorem emit_diagnostics {steps : List Step} (hhandled : ∀ e, .unhandled e ∉ steps)
    (ctx : Context) (created : List Text) :
    (emit ctx created steps).diagnostics = steps.flatMap (Step.diagnostics ctx) := by
  induction steps generalizing created with
  | nil => rfl
  | cons step rest ih =>
      obtain ⟨hstep, hrest⟩ := handled_cons hhandled
      simp only [emit_cons ctx created hstep, ih hrest, List.flatMap_cons]

def Segment.block? : Segment → Option DocBlock
  | .block b => some b
  | .detached b => some b
  | _ => none

theorem Callable.stub_block? (options : Options) (c : Callable) :
    (c.stub options).block? = none := by
  rw [Callable.stub]
  split <;> rfl

theorem mem_memberSegments {scope : Option Text} {name : Text} {segment : Segment}
    (h : segment ∈ memberSegments scope name) : ∃ outer, segment = .member outer name := by
  rw [memberSegments, Option.mem_toList, Option.map_eq_some_iff] at h
  obtain ⟨outer, -, rfl⟩ := h
  exact ⟨outer, rfl⟩

/-- A namespace is opened by blocks and containers. -/
theorem mem_openNamespace_segments {ctx : Context} {created : List Text} {qualified : Text}
    {doc : Option Comment} {segment : Segment}
    (h : segment ∈ (Step.openNamespace qualified doc).segments ctx created) :
    (∃ entries, segment = .block (.ofEntries entries)) ∨ ∃ name, segment = .container name := by
  obtain ⟨name, -, hname⟩ := List.mem_flatMap.mp h
  simp only [Context.containerSegments, List.mem_cons, List.not_mem_nil, or_false] at hname
  rcases hname with rfl | rfl
  · exact Or.inl ⟨_, rfl⟩
  · exact Or.inr ⟨name, rfl⟩

/-- The block of a declaration or a container is made of lines, and only the
step of a comment that stands alone writes a block of the other sort. -/
theorem Step.block_of_mem_segments {ctx : Context} {created : List Text} {step : Step}
    {segment : Segment} (h : segment ∈ step.segments ctx created) :
    segment.block? = none ∨ (∃ entries, segment = .block (.ofEntries entries)) ∨
      ∃ c, step = .detached c ∧ segment = .detached (documentDetached ctx.options c) := by
  match step with
  | .callable home c =>
      rcases List.mem_append.mp h with hdecl | hmember
      · simp only [List.mem_cons, List.not_mem_nil, or_false] at hdecl
        rcases hdecl with rfl | rfl
        · exact Or.inr (Or.inl ⟨_, rfl⟩)
        · exact Or.inl (Callable.stub_block? ctx.options c.decl)
      · obtain ⟨outer, rfl⟩ := mem_memberSegments hmember
        exact Or.inl rfl
  | .classStart scope c =>
      simp only [Step.segments, List.mem_cons, List.not_mem_nil, or_false] at h
      rcases h with rfl | rfl
      · exact Or.inr (Or.inl ⟨_, rfl⟩)
      · exact Or.inl rfl
  | .classEnd scope name =>
      rcases List.mem_cons.mp h with rfl | hmember
      · exact Or.inl rfl
      · obtain ⟨outer, rfl⟩ := mem_memberSegments hmember
        exact Or.inl rfl
  | .openNamespace qualified doc =>
      rcases mem_openNamespace_segments h with hblock | ⟨name, rfl⟩
      · exact Or.inr (Or.inl hblock)
      · exact Or.inl rfl
  | .detached c => exact Or.inr (Or.inr ⟨c, rfl, List.mem_singleton.mp h⟩)
  | .unhandled e => cases h

theorem firstUnhandled?_eq_none_iff {stmts : List Stmt} :
    firstUnhandled? stmts = none ↔ ∀ stmt ∈ stmts, stmt.unknownKind? = none := by
  rw [firstUnhandled?, Option.map_eq_none_iff, List.findSome?_eq_none_iff]

theorem exists_unknown_of_firstUnhandled? {stmts : List Stmt} {e : UnhandledKind}
    (h : firstUnhandled? stmts = some e) : ∃ stmt ∈ stmts, stmt.unknownKind? ≠ none := by
  obtain ⟨kind, hkind, -⟩ := Option.map_eq_some_iff.mp h
  obtain ⟨stmt, hstmt, hsome⟩ := List.exists_of_findSome?_eq_some hkind
  exact ⟨stmt, hstmt, by simp [hsome]⟩

theorem exists_unknown_of_arisesIn {scope : Option Text} {stmts : List Stmt} {step : Step}
    (h : ArisesIn scope stmts step) {e : UnhandledKind} (hstep : step = .unhandled e) :
    ∃ stmt ∈ treeOf stmts, stmt.unknownKind? ≠ none := by
  induction h with
  | inside hmem _ ih =>
      obtain ⟨stmt, hstmt, hunknown⟩ := ih hstep
      exact ⟨stmt, mem_treeOf_namespaceDecl hmem hstmt, hunknown⟩
  | unhandled hunhandled =>
      obtain ⟨stmt, hstmt, hunknown⟩ := exists_unknown_of_firstUnhandled? hunhandled
      exact ⟨stmt, mem_treeOf_self hstmt, hunknown⟩
  | unhandledClass hmem hunhandled =>
      obtain ⟨stmt, hstmt, hunknown⟩ := exists_unknown_of_firstUnhandled? hunhandled
      exact ⟨stmt, mem_treeOf_classDecl hmem (mem_treeOf_self hstmt), hunknown⟩
  | _ => cases hstep

/-- A tree of known kinds is written to its end. -/
theorem emitScope_failure_eq_none {stmts : List Stmt}
    (hknown : ∀ stmt ∈ treeOf stmts, stmt.unknownKind? = none) (ctx : Context)
    (created : List Text) (scope : Option Text) :
    (emitScope ctx created scope stmts).failure = none := by
  rw [emitScope, emit_failure_eq_none_iff]
  intro e hstep
  obtain ⟨stmt, hstmt, hunknown⟩ :=
    exists_unknown_of_arisesIn (arisesIn_of_mem_scopeSteps hstep) rfl
  exact hunknown (hknown stmt hstmt)

end DocWeave
