/-
Namespace containers.  However namespaces are nested, dotted and reopened, the
steps of a scope open each namespace before anything is put into it, so that
every segment stands in its place.  A run that reaches its end has written the
containers its namespaces lacked and no others.
-/
import DocWeave.Proofs.Emission.Placement
import DocWeave.Proofs.Emission.Run

namespace DocWeave

def Step.namespaces : Step → List Text
  | .openNamespace full _ => [full]
  | _ => []

/-- Whether each step is ready once the namespaces of the steps before it are
open, besides some that were open from the start. -/
def OpenedInOrder (opened : List Text) : List Step → Prop
  | [] => True
  | step :: rest => step.Ready opened ∧ OpenedInOrder (opened ++ step.namespaces) rest

theorem OpenedInOrder.mono {steps : List Step} {opened opened' : List Text}
    (h : OpenedInOrder opened steps) (hsub : opened ⊆ opened') :
    OpenedInOrder opened' steps := by
  induction steps generalizing opened opened' with
  | nil => trivial
  | cons step rest ih =>
      refine ⟨h.1.mono hsub, ih h.2 ?_⟩
      intro name hname
      rcases List.mem_append.mp hname with hold | hnew
      · exact List.mem_append_left _ (hsub hold)
      · exact List.mem_append_right _ hnew

theorem OpenedInOrder.append {a b : List Step} {opened : List Text}
    (ha : OpenedInOrder opened a) (hb : OpenedInOrder opened b) :
    OpenedInOrder opened (a ++ b) := by
  induction a generalizing opened with
  | nil => exact hb
  | cons step rest ih =>
      exact ⟨ha.1, ih ha.2 (hb.mono (List.subset_append_left opened step.namespaces))⟩

theorem openedInOrder_flatMap {α : Type} {opened : List Text} {items : List α}
    {steps : α → List Step} (h : ∀ item ∈ items, OpenedInOrder opened (steps item)) :
    OpenedInOrder opened (items.flatMap steps) := by
  induction items with
  | nil => trivial
  | cons item rest ih =>
      rw [List.flatMap_cons]
      exact (h item List.mem_cons_self).append
        (ih fun later hlater => h later (List.mem_cons_of_mem item hlater))

theorem mem_append_opened {created : List Text} {step : Step} {name : Text} :
    name ∈ created ++ step.opened created ↔
      name ∈ created ∨ ∃ full ∈ step.namespaces, IsDottedPrefix name full := by
  cases step with
  | openNamespace full doc =>
      rw [Step.opened, mem_append_missingContainers]
      simp [Step.namespaces]
  | _ => simp [Step.opened, Step.namespaces]

theorem PrefixClosed.append_opened {created : List Text} (hclosed : PrefixClosed created)
    (step : Step) : PrefixClosed (created ++ step.opened created) := by
  intro name hname start hstart hne
  rw [mem_append_opened] at hname ⊢
  rcases hname with hcreated | ⟨full, hfull, hbelow⟩
  · exact Or.inl (hclosed name hcreated start hstart hne)
  · exact Or.inr ⟨full, hfull, hstart.trans hbelow⟩

theorem append_namespaces_subset {opened created : List Text} (hopened : opened ⊆ created)
    (step : Step) : opened ++ step.namespaces ⊆ created ++ step.opened created := by
  intro name hname
  rw [mem_append_opened]
  rcases List.mem_append.mp hname with hold | hnew
  · exact Or.inl (hopened hold)
  · exact Or.inr ⟨name, hnew, IsDottedPrefix.refl name⟩

/-- What a run over steps in order keeps: all it writes is in its place, and the
containers stay closed under dotted prefixes.  This holds up to the step that
stops the run, if there is one. -/
theorem emit_wellPlaced (ctx : Context) {steps : List Step} {opened created : List Text}
    (horder : OpenedInOrder opened steps) (hopened : opened ⊆ created)
    (hclosed : PrefixClosed created) :
    WellPlaced created (emit ctx created steps).segments ∧
      PrefixClosed (emit ctx created steps).created := by
  induction steps generalizing opened created with
  | nil => exact ⟨wellPlaced_nil created, hclosed⟩
  | cons step rest ih =>
      rcases step.handled_or_unhandled with ⟨e, rfl⟩ | hstep
      · exact ⟨wellPlaced_nil created, hclosed⟩
      · rw [emit_cons ctx created hstep]
        have hhere := wellPlaced_step_segments ctx hclosed (horder.1.mono hopened)
        obtain ⟨hrest, hlast⟩ := ih horder.2
          (append_namespaces_subset hopened step) (hclosed.append_opened step)
        refine ⟨wellPlaced_append.mpr ⟨hhere, ?_⟩, hlast⟩
        rwa [containersOf_step_segments]

theorem emit_created (ctx : Context) (created : List Text) (steps : List Step) :
    (emit ctx created steps).created =
      created ++ containersOf (emit ctx created steps).segments := by
  induction steps generalizing created with
  | nil => simp [emit]
  | cons step rest ih =>
      rcases step.handled_or_unhandled with ⟨e, rfl⟩ | hstep
      · simp [emit]
      · rw [emit_cons ctx created hstep]
        simp only [containersOf_append, containersOf_step_segments, ← List.append_assoc]
        exact ih (created ++ step.opened created)

/-- A run that reaches its end leaves the containers there were and all dotted
prefixes of the namespaces it was asked for. -/
theorem mem_emit_created {ctx : Context} {steps : List Step}
    (hhandled : ∀ e, .unhandled e ∉ steps) {created : List Text} {name : Text} :
    name ∈ (emit ctx created steps).created ↔
      name ∈ created ∨ ∃ full ∈ steps.flatMap Step.namespaces, IsDottedPrefix name full := by
  induction steps generalizing created with
  | nil => simp [emit]
  | cons step rest ih =>
      have hstep : ∀ e, step ≠ .unhandled e := by
        rintro e rfl
        exact hhandled e List.mem_cons_self
      have hrest : ∀ e, .unhandled e ∉ rest := fun e he =>
        hhandled e (List.mem_cons_of_mem step he)
      rw [emit_cons ctx created hstep]
      change name ∈ (emit ctx (created ++ step.opened created) rest).created ↔ _
      rw [ih hrest, mem_append_opened, List.flatMap_cons]
      simp only [List.mem_append, or_and_right, exists_or, or_assoc]

/-- A namespace with a proper name is opened at the top or within its scope. -/
theorem opensWithin_qualify {opened : List Text} {scope : Option Text}
    (hscope : ∀ outer ∈ scope, outer ≠ [] → outer ∈ opened) {name : Text}
    (hname : IsDottedName name) : OpensWithin opened (qualify scope name) := by
  unfold qualify
  split
  · rename_i outer houter
    obtain ⟨hin, hne⟩ := eq_of_bind_given? houter
    exact Or.inr ⟨outer, hscope outer hin hne, hne, name, rfl⟩
  · exact Or.inl hname.ne_dot_cons

theorem openedInOrder_class_steps {opened : List Text} {scope : Option Text}
    (hscope : ∀ outer ∈ scope, outer ≠ [] → outer ∈ opened) (head : Documented ClassHead)
    (body : List Stmt) : OpenedInOrder opened ((classEntry head body).steps scope) := by
  unfold classEntry
  cases firstUnhandled? body with
  | some e => exact ⟨trivial, trivial⟩
  | none =>
      have hmethods : OpenedInOrder opened
          ((ClassEntry.of head body).methods.map (Step.callable .classBody)) := by
        rw [List.map_eq_flatMap]
        apply openedInOrder_flatMap
        intro method hmethod
        refine ⟨?_, trivial⟩
        intro outer hhome
        cases hhome
      have hstart : OpenedInOrder opened [Step.classStart scope (ClassEntry.of head body)] :=
        ⟨trivial, trivial⟩
      have hend : OpenedInOrder opened [Step.classEnd scope head.decl.name] :=
        ⟨hscope, trivial⟩
      exact hstart.append (hmethods.append hend)

theorem openedInOrder_scopeSteps_of_entries {options : Options} {opened : List Text}
    {scope : Option Text} {stmts : List Stmt}
    (hentries : ∀ stmt ∈ stmts, ∀ comments placed, stmt.entry? options comments = some placed →
      OpenedInOrder opened (placed.item.steps scope)) :
    OpenedInOrder opened (scopeSteps options scope stmts) := by
  cases hunhandled : firstUnhandled? stmts with
  | some e =>
      rw [scopeSteps_of_unhandled hunhandled]
      exact ⟨trivial, trivial⟩
  | none =>
      rw [scopeSteps, outline_of_handled hunhandled, stepsOf_eq_flatMap]
      apply openedInOrder_flatMap
      intro entry hentry
      obtain ⟨placed, hplaced, rfl⟩ := List.mem_map.mp hentry
      rcases List.mem_append.mp (mem_sortPlaced.mp hplaced) with hdeclared | hdetached
      · obtain ⟨stmt, hstmt, hsome⟩ := List.mem_filterMap.mp hdeclared
        exact hentries stmt hstmt _ placed hsome
      · obtain ⟨c, hc⟩ := detachedEntries_item hdetached
        rw [hc]
        exact ⟨trivial, trivial⟩

/-- Whether all namespaces of a statement tree have proper names. -/
def NamesDotted (stmts : List Stmt) : Prop :=
  ∀ stmt ∈ treeOf stmts, ∀ head ∈ stmt.namespaceHead?, IsDottedName head.name

instance (stmts : List Stmt) : Decidable (NamesDotted stmts) :=
  inferInstanceAs (Decidable (∀ stmt ∈ treeOf stmts, ∀ head ∈ stmt.namespaceHead?,
    IsDottedName head.name))

theorem openedInOrder_entry_steps (options : Options) (stmt : Stmt) :
    ∀ opened scope, (∀ outer ∈ scope, outer ≠ [] → outer ∈ opened) →
      NamesDotted [stmt] → ∀ comments placed, stmt.entry? options comments = some placed →
        OpenedInOrder opened (placed.item.steps scope) := by
  induction stmt using Stmt.treeInduction with
  | callable c =>
      intro opened scope hscope _ comments placed hentry
      obtain rfl := Option.some.inj hentry
      refine ⟨?_, trivial⟩
      intro outer hhome
      exact hscope outer (Home.scope.inj hhome)
  | classDecl head body _ =>
      intro opened scope hscope _ comments placed hentry
      obtain rfl := Option.some.inj hentry
      exact openedInOrder_class_steps hscope _ body
  | namespaceDecl head body ih =>
      intro opened scope hscope hnames comments placed hentry
      rw [Stmt.entry?_namespaceDecl] at hentry
      obtain rfl := Option.some.inj hentry
      have hname : IsDottedName head.name :=
        hnames _ (mem_treeOf_self List.mem_cons_self) head rfl
      rw [Entry.steps]
      refine ⟨opensWithin_qualify hscope hname, ?_⟩
      apply openedInOrder_scopeSteps_of_entries
      intro stmt hstmt
      apply ih stmt hstmt
      · intro outer houter _
        obtain rfl := Option.some.inj houter
        exact List.mem_append_right opened List.mem_cons_self
      · intro inner hinner
        exact hnames inner (mem_treeOf_namespaceDecl List.mem_cons_self
          (mem_treeOf_of_mem hstmt (by simpa [treeOf] using hinner)))
  | _ =>
      intro _ _ _ _ comments placed hentry
      cases hentry

/-- The steps of a scope that is open come in order. -/
theorem openedInOrder_scopeSteps (options : Options) {opened : List Text}
    {scope : Option Text} {stmts : List Stmt}
    (hscope : ∀ outer ∈ scope, outer ≠ [] → outer ∈ opened) (hnames : NamesDotted stmts) :
    OpenedInOrder opened (scopeSteps options scope stmts) := by
  apply openedInOrder_scopeSteps_of_entries
  intro stmt hstmt
  apply openedInOrder_entry_steps options stmt opened scope hscope
  intro inner hinner
  exact hnames inner (mem_treeOf_of_mem hstmt (by simpa [treeOf] using hinner))

mutual
/-- The qualified names of the namespaces a statement in a scope declares: its
own and those nested in it.  A class is not searched. -/
def Stmt.namespaces (scope : Option Text) : Stmt → List Text
  | .namespaceDecl head body =>
      qualify scope head.name :: namespacesOf (some (qualify scope head.name)) body
  | _ => []

/-- The qualified names of the namespaces the statements of a scope declare. -/
def namespacesOf (scope : Option Text) : List Stmt → List Text
  | [] => []
  | stmt :: rest => stmt.namespaces scope ++ namespacesOf scope rest
end

theorem mem_namespacesOf {scope : Option Text} {stmts : List Stmt} {full : Text} :
    full ∈ namespacesOf scope stmts ↔ ∃ stmt ∈ stmts, full ∈ stmt.namespaces scope := by
  induction stmts with
  | nil => simp [namespacesOf]
  | cons stmt rest ih => simp [namespacesOf, ih]

theorem mem_step_namespaces {step : Step} {full : Text} :
    full ∈ step.namespaces ↔ ∃ doc, step = .openNamespace full doc := by
  cases step with
  | openNamespace other doc => simp [Step.namespaces, eq_comm]
  | _ => simp [Step.namespaces]

theorem mem_namespacesOf_of_arisesIn {scope : Option Text} {stmts : List Stmt} {step : Step}
    (h : ArisesIn scope stmts step) {full : Text} (hfull : full ∈ step.namespaces) :
    full ∈ namespacesOf scope stmts := by
  induction h with
  | openNamespace doc hmem =>
      obtain rfl := List.mem_singleton.mp hfull
      refine mem_namespacesOf.mpr ⟨_, hmem, ?_⟩
      rw [Stmt.namespaces]
      exact List.mem_cons_self
  | inside hmem _ ih =>
      refine mem_namespacesOf.mpr ⟨_, hmem, ?_⟩
      rw [Stmt.namespaces]
      exact List.mem_cons_of_mem _ (ih hfull)
  | _ => cases hfull

theorem firstUnhandled?_eq_none_of_scopeSteps {options : Options} {scope : Option Text}
    {stmts : List Stmt} (h : ∀ e, .unhandled e ∉ scopeSteps options scope stmts) :
    firstUnhandled? stmts = none := by
  cases hunhandled : firstUnhandled? stmts with
  | none => rfl
  | some e =>
      refine absurd ?_ (h e)
      rw [scopeSteps_of_unhandled hunhandled]
      exact List.mem_cons_self

theorem mem_scopeSteps_namespaces_of_entries {options : Options} {scope : Option Text}
    {stmts : List Stmt} (hhandled : ∀ e, .unhandled e ∉ scopeSteps options scope stmts)
    (hentries : ∀ stmt ∈ stmts, ∀ full ∈ stmt.namespaces scope, ∀ comments,
      ∃ placed, stmt.entry? options comments = some placed ∧
        ((∀ e, .unhandled e ∉ placed.item.steps scope) →
          ∃ doc, .openNamespace full doc ∈ placed.item.steps scope))
    {full : Text} (hfull : full ∈ namespacesOf scope stmts) :
    ∃ doc, .openNamespace full doc ∈ scopeSteps options scope stmts := by
  have hknown := firstUnhandled?_eq_none_of_scopeSteps hhandled
  obtain ⟨stmt, hstmt, hnames⟩ := mem_namespacesOf.mp hfull
  obtain ⟨placed, hentry, hopen⟩ := hentries stmt hstmt full hnames (commentsOf stmts)
  have hsub : ∀ step ∈ placed.item.steps scope, step ∈ scopeSteps options scope stmts :=
    fun step hstep =>
      (mem_scopeSteps hknown).mpr (Or.inl ⟨stmt, hstmt, placed, hentry, hstep⟩)
  obtain ⟨doc, hdoc⟩ := hopen fun e he => hhandled e (hsub _ he)
  exact ⟨doc, hsub _ hdoc⟩

theorem exists_openNamespace_of_mem_namespaces (options : Options) (stmt : Stmt) :
    ∀ scope, ∀ full ∈ stmt.namespaces scope, ∀ comments,
      ∃ placed, stmt.entry? options comments = some placed ∧
        ((∀ e, .unhandled e ∉ placed.item.steps scope) →
          ∃ doc, .openNamespace full doc ∈ placed.item.steps scope) := by
  induction stmt using Stmt.treeInduction with
  | namespaceDecl head body ih =>
      intro scope full hfull comments
      refine ⟨_, Stmt.entry?_namespaceDecl options comments head body, ?_⟩
      rw [Entry.steps]
      intro hhandled
      rw [Stmt.namespaces] at hfull
      rcases List.mem_cons.mp hfull with rfl | hinner
      · exact ⟨_, List.mem_cons_self⟩
      · obtain ⟨doc, hdoc⟩ := mem_scopeSteps_namespaces_of_entries
          (fun e he => hhandled e (List.mem_cons_of_mem _ he))
          (fun stmt hstmt => ih stmt hstmt _) hinner
        exact ⟨doc, List.mem_cons_of_mem _ hdoc⟩
  | _ =>
      intro scope full hfull
      simp [Stmt.namespaces] at hfull

/-- A scope that is written to its end asks for the namespaces reached through
its namespaces. -/
theorem mem_scopeSteps_namespaces {options : Options} {scope : Option Text}
    {stmts : List Stmt} (hhandled : ∀ e, .unhandled e ∉ scopeSteps options scope stmts)
    {full : Text} :
    full ∈ (scopeSteps options scope stmts).flatMap Step.namespaces ↔
      full ∈ namespacesOf scope stmts := by
  rw [List.mem_flatMap]
  constructor
  · rintro ⟨step, hstep, hfull⟩
    exact mem_namespacesOf_of_arisesIn (arisesIn_of_mem_scopeSteps hstep) hfull
  · intro hfull
    obtain ⟨doc, hdoc⟩ := mem_scopeSteps_namespaces_of_entries hhandled
      (fun stmt _ => exists_openNamespace_of_mem_namespaces options stmt scope) hfull
    exact ⟨_, hdoc, mem_step_namespaces.mpr ⟨doc, rfl⟩⟩

/-- A run that reaches its end has written the containers that were missing
among the dotted prefixes of its namespaces. -/
theorem mem_containersOf_emitScope {ctx : Context} {created : List Text}
    {scope : Option Text} {stmts : List Stmt}
    (hplaced : WellPlaced created (emitScope ctx created scope stmts).segments)
    (hsuccess : (emitScope ctx created scope stmts).failure = none) (name : Text) :
    name ∈ containersOf (emitScope ctx created scope stmts).segments ↔
      name ∉ created ∧ ∃ full ∈ namespacesOf scope stmts, IsDottedPrefix name full := by
  rw [emitScope, emit_failure_eq_none_iff] at hsuccess
  have hcreated : name ∈ created ++ containersOf (emitScope ctx created scope stmts).segments ↔
      name ∈ created ∨ ∃ full ∈ namespacesOf scope stmts, IsDottedPrefix name full := by
    rw [emitScope, ← emit_created, mem_emit_created hsuccess]
    simp only [mem_scopeSteps_namespaces hsuccess]
  rw [List.mem_append] at hcreated
  constructor
  · intro hname
    have hnew := hplaced.nodup.2 name hname
    exact ⟨hnew, (hcreated.mp (Or.inr hname)).resolve_left hnew⟩
  · rintro ⟨hnew, hbelow⟩
    exact (hcreated.mpr (Or.inr hbelow)).resolve_left hnew

/-- What is true of the containers of an emission, given those it started from
and the namespaces it was asked for. -/
structure ContainersInOrder (created namespaces : List Text) (e : Emission) : Prop where
  /-- What is said of the segments is said of the text that is returned. -/
  text : e.failure = none → e.text = .ok (Text.unlines (e.segments.map Segment.text))
  /-- A container comes after its parent, and a member after its container. -/
  placed : WellPlaced created e.segments
  once : (containersOf e.segments).Nodup
  fresh : ∀ name ∈ containersOf e.segments, name ∉ created
  /-- None is lost and none is added unwritten, also when the writing stops. -/
  created_eq : e.created = created ++ containersOf e.segments
  closed : PrefixClosed e.created
  complete : e.failure = none → ∀ name, name ∈ containersOf e.segments ↔
    name ∉ created ∧ ∃ full ∈ namespaces, IsDottedPrefix name full

/-- Writing a scope makes each container its namespaces lack once and in order. -/
theorem emitScope_containersInOrder (ctx : Context) (created : List Text)
    (scope : Option Text) (stmts : List Stmt) (hnames : NamesDotted stmts)
    (hclosed : PrefixClosed created)
    (hscope : ∀ outer ∈ scope, outer ≠ [] → outer ∈ created) :
    ContainersInOrder created (namespacesOf scope stmts)
      (emitScope ctx created scope stmts) := by
  have horder := openedInOrder_scopeSteps ctx.options hscope hnames
  obtain ⟨hplaced, hlast⟩ := emit_wellPlaced ctx horder (List.Subset.refl created) hclosed
  exact
    { text := Emission.text_of_success
      placed := hplaced
      once := hplaced.nodup.1
      fresh := hplaced.nodup.2
      created_eq := emit_created ctx created _
      closed := hlast
      complete := mem_containersOf_emitScope hplaced }

namespace ContainersWitness

/-- A namespace opened twice, once with a dot, and a class with a namespace in
its body that nothing looks for. -/
def reopened : List Stmt :=
  [.namespaceDecl ⟨"Http.Client".toList, .ofLines 1 (some 3)⟩
      [.callable { name := "fetch".toList, range := .ofLines 2 none }],
    .namespaceDecl ⟨"Http".toList, .ofLines 4 (some 9)⟩
      [.namespaceDecl ⟨"Server".toList, .ofLines 5 (some 6)⟩ [],
        .classDecl { name := "Pool".toList, range := .ofLines 7 (some 8) }
          [.namespaceDecl ⟨"Hidden".toList, .ofLines 7 none⟩ []]]]

end ContainersWitness

theorem emitScope_containersInOrder_reopened :
    ContainersInOrder ["Net".toList]
        (namespacesOf (some "Net".toList) ContainersWitness.reopened)
        (emitScope {} ["Net".toList] (some "Net".toList) ContainersWitness.reopened) ∧
      containersOf
          (emitScope {} ["Net".toList] (some "Net".toList) ContainersWitness.reopened).segments =
        ["Net.Http".toList, "Net.Http.Client".toList, "Net.Http.Server".toList] :=
  ⟨emitScope_containersInOrder {} ["Net".toList] (some "Net".toList)
      ContainersWitness.reopened (by decide) (by decide) (by decide),
    by decide +kernel⟩

end DocWeave
