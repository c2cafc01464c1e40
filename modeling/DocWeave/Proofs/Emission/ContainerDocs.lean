/-
Which comment stands at a container.  A container is made once, by the first
namespace reached at or below its name, and only a namespace of that very name
brings a comment.  So the comment of a namespace that is declared once is kept
unless a namespace below it is reached before it.
-/
import DocWeave.Proofs.Emission.Containers
import DocWeave.Proofs.Emission.SourceOrder
import DocWeave.Proofs.Outline.Selection
import DocWeave.Proofs.Reconcile.Entries

namespace DocWeave

/-- Whether the container of a name is made once, behind a block that is printed
and has the given lines of text. -/
def ContainerHasText (segments : List Segment) (name : Text) (lines : List Text) : Prop :=
  ∃ front block rest, segments = front ++ .block block :: .container name :: rest ∧
    name ∉ containersOf front ∧ name ∉ containersOf rest ∧ block.get .text = lines ∧
    (Segment.block block).text = block.render

theorem ContainerHasText.append_left {segments : List Segment} {name : Text}
    {lines : List Text} (h : ContainerHasText segments name lines) {earlier : List Segment}
    (hearlier : name ∉ containersOf earlier) :
    ContainerHasText (earlier ++ segments) name lines := by
  obtain ⟨front, block, rest, rfl, hfront, hrest, htext⟩ := h
  refine ⟨earlier ++ front, block, rest, by simp, ?_, hrest, htext⟩
  simp [hearlier, hfront]

theorem ContainerHasText.append_right {segments : List Segment} {name : Text}
    {lines : List Text} (h : ContainerHasText segments name lines) {later : List Segment}
    (hlater : name ∉ containersOf later) :
    ContainerHasText (segments ++ later) name lines := by
  obtain ⟨front, block, rest, rfl, hfront, hrest, htext⟩ := h
  refine ⟨front, block, rest ++ later, by simp, hfront, ?_, htext⟩
  simp [hlater, hrest]

theorem documentNamespace_get_text (moduleName : Option Text) (header : NamespaceHeader)
    (body : List Text) : (documentNamespace moduleName header body).get .text = body := by
  rw [documentNamespace, DocBlock.get_ofEntries]
  simp

/-- The comment of a namespace goes to the container of its own name, and the
other containers made for it have no text. -/
theorem containerHasText_openNamespace (ctx : Context) {created : List Text} {name full : Text}
    (hnew : name ∉ created) (hbelow : IsDottedPrefix name full) (doc : Option Comment) :
    ContainerHasText ((Step.openNamespace full doc).segments ctx created) name
      (if name = full then docBody ctx.options doc else []) := by
  have hmissing : name ∈ missingContainers created full :=
    mem_missingContainers.mpr ⟨hnew, hbelow⟩
  have hnodup := missingContainers_nodup created full
  obtain ⟨shorter, longer, hsplit⟩ := List.append_of_mem hmissing
  rw [hsplit, List.nodup_middle, List.nodup_cons, List.mem_append, not_or] at hnodup
  obtain ⟨⟨hshorter, hlonger⟩, -⟩ := hnodup
  refine ⟨shorter.flatMap (ctx.containerSegments full doc),
    documentNamespace ctx.moduleName (containerHeader name)
      (if name = full then docBody ctx.options doc else []),
    longer.flatMap (ctx.containerSegments full doc), ?_, ?_, ?_, ?_, rfl⟩
  · simp [Step.segments, hsplit, Context.containerSegments]
  · rwa [containersOf_containerSegments]
  · rwa [containersOf_containerSegments]
  · exact documentNamespace_get_text ctx.moduleName _ _

/-- A run does not make a container again that is there. -/
theorem notMem_containersOf_emit (ctx : Context) {created : List Text} {name : Text}
    (hthere : name ∈ created) (steps : List Step) :
    name ∉ containersOf (emit ctx created steps).segments := by
  induction steps generalizing created with
  | nil => simp [emit]
  | cons step rest ih =>
      rcases step.handled_or_unhandled with ⟨e, rfl⟩ | hstep
      · simp [emit]
      · have hhere : name ∉ step.opened created := by
          cases step with
          | openNamespace full doc => exact fun h => (mem_missingContainers.mp h).1 hthere
          | callable | classStart | classEnd | detached | unhandled => simp [Step.opened]
        have hlater := ih (List.mem_append_left (step.opened created) hthere)
        simp only [emit_cons ctx created hstep, containersOf_append, containersOf_step_segments,
          List.mem_append, not_or]
        exact ⟨hhere, hlater⟩

/-- A container that is asked for is made by the first step that asks for it or
for one below it. -/
theorem exists_containerHasText_emit (ctx : Context) {steps : List Step}
    (hhandled : ∀ e, .unhandled e ∉ steps) {created : List Text} {name : Text}
    (hnew : name ∉ created)
    (hasked : ∃ full ∈ steps.flatMap Step.namespaces, IsDottedPrefix name full) :
    ∃ before full doc after, steps = before ++ .openNamespace full doc :: after ∧
      (∀ other ∈ before.flatMap Step.namespaces, ¬ IsDottedPrefix name other) ∧
      IsDottedPrefix name full ∧
      ContainerHasText (emit ctx created steps).segments name
        (if name = full then docBody ctx.options doc else []) := by
  induction steps generalizing created with
  | nil => simp at hasked
  | cons step rest ih =>
      obtain ⟨hstep, hrest⟩ := handled_cons hhandled
      rw [emit_cons ctx created hstep]
      by_cases hhere : ∃ full ∈ step.namespaces, IsDottedPrefix name full
      · obtain ⟨full, hfull, hbelow⟩ := hhere
        obtain ⟨doc, rfl⟩ := mem_step_namespaces.mp hfull
        refine ⟨[], full, doc, rest, rfl, by simp, hbelow, ?_⟩
        have hthere : name ∈ created ++ missingContainers created full :=
          mem_append_missingContainers.mpr (Or.inr hbelow)
        exact (containerHasText_openNamespace ctx hnew hbelow doc).append_right
          (notMem_containersOf_emit ctx hthere rest)
      · have hstill : name ∉ created ++ step.opened created := by
          rw [mem_append_opened]
          exact not_or.mpr ⟨hnew, hhere⟩
        have hlater : ∃ full ∈ rest.flatMap Step.namespaces, IsDottedPrefix name full := by
          obtain ⟨full, hfull, hbelow⟩ := hasked
          rw [List.flatMap_cons, List.mem_append] at hfull
          exact ⟨full, hfull.resolve_left fun h => hhere ⟨full, h, hbelow⟩, hbelow⟩
        obtain ⟨before, full, doc, after, rfl, hfirst, hbelow, htext⟩ := ih hrest hstill hlater
        refine ⟨step :: before, full, doc, after, rfl, ?_, hbelow, ?_⟩
        · intro other hother hother'
          rw [List.flatMap_cons, List.mem_append] at hother
          rcases hother with hmem | hmem
          · exact hhere ⟨other, hmem, hother'⟩
          · exact hfirst other hmem hother'
        · apply htext.append_left
          rw [containersOf_step_segments]
          exact fun h => hstill (List.mem_append_right created h)

mutual
/-- The qualified names of the namespaces a declaration leads to, at its place:
for a namespace its own and those in it, in the order in which these start. -/
def Stmt.placedNamespaces? (scope : Option Text) : Stmt → Option (Placed (List Text))
  | .namespaceDecl head body =>
      some ⟨head.place, qualify scope head.name ::
        (sortPlaced (placedNamespacesOf (some (qualify scope head.name)) body)).flatMap
          (·.item)⟩
  | stmt => stmt.place?.map (⟨·, []⟩)

/-- The namespaces the declarations in a list lead to, in list order. -/
def placedNamespacesOf (scope : Option Text) : List Stmt → List (Placed (List Text))
  | [] => []
  | stmt :: rest => (stmt.placedNamespaces? scope).toList ++ placedNamespacesOf scope rest
end

/-- The qualified names of the namespaces of a scope in the order in which they
are reached: source order, each before those in it. -/
def namespacesInOrder (scope : Option Text) (stmts : List Stmt) : List Text :=
  (sortPlaced (placedNamespacesOf scope stmts)).flatMap (·.item)

theorem placedNamespacesOf_eq_filterMap (scope : Option Text) (stmts : List Stmt) :
    placedNamespacesOf scope stmts = stmts.filterMap (Stmt.placedNamespaces? scope) := by
  induction stmts with
  | nil => rfl
  | cons stmt rest ih =>
      rw [placedNamespacesOf, ih, List.filterMap_cons]
      rcases stmt.placedNamespaces? scope with _ | placed <;> rfl

theorem Stmt.placedNamespaces?_namespaceDecl (scope : Option Text) (head : NamespaceHead)
    (body : List Stmt) :
    (Stmt.namespaceDecl head body).placedNamespaces? scope =
      some ⟨head.place, qualify scope head.name ::
        namespacesInOrder (some (qualify scope head.name)) body⟩ := by
  rw [Stmt.placedNamespaces?, namespacesInOrder]

theorem namespacesInOrder_perm_of_stmts {stmts : List Stmt} {scope : Option Text}
    (h : ∀ stmt ∈ stmts, ((stmt.placedNamespaces? scope).toList.flatMap (·.item)).Perm
      (stmt.namespaces scope)) :
    (namespacesInOrder scope stmts).Perm (namespacesOf scope stmts) := by
  refine ((sortPlaced_perm _).flatMap_right _).trans ?_
  induction stmts with
  | nil => exact .refl _
  | cons stmt rest ih =>
      rw [placedNamespacesOf, List.flatMap_append, namespacesOf]
      exact (h stmt List.mem_cons_self).append
        (ih fun later hlater => h later (List.mem_cons_of_mem stmt hlater))

theorem Stmt.placedNamespaces?_perm (stmt : Stmt) : ∀ scope,
    ((stmt.placedNamespaces? scope).toList.flatMap (·.item)).Perm (stmt.namespaces scope) := by
  induction stmt using Stmt.treeInduction with
  | namespaceDecl head body ih =>
      intro scope
      have hbody := namespacesInOrder_perm_of_stmts fun stmt hstmt =>
        ih stmt hstmt (some (qualify scope head.name))
      rw [Stmt.placedNamespaces?_namespaceDecl, Stmt.namespaces]
      simpa using hbody
  | _ =>
      intro scope
      simp [Stmt.placedNamespaces?, Stmt.namespaces, Stmt.place?]

/-- All namespaces of a scope are reached, each as often as it is declared. -/
theorem namespacesInOrder_perm (scope : Option Text) (stmts : List Stmt) :
    (namespacesInOrder scope stmts).Perm (namespacesOf scope stmts) :=
  namespacesInOrder_perm_of_stmts fun stmt _ => stmt.placedNamespaces?_perm scope

def Step.namespace? : Step → Option Text
  | .openNamespace full _ => some full
  | _ => none

theorem flatMap_namespaces (steps : List Step) :
    steps.flatMap Step.namespaces = steps.filterMap Step.namespace? := by
  have hstep : Step.namespaces = fun step => step.namespace?.toList := by
    funext step
    match step with
    | .openNamespace _ _ => rfl
    | .callable _ _ | .classStart _ _ | .classEnd _ _ | .detached _ | .unhandled _ => rfl
  rw [hstep, List.filterMap_eq_flatMap_toList]

theorem scopeSteps_namespaces_of_entries {options : Options} {scope : Option Text}
    {stmts : List Stmt} (hknown : firstUnhandled? stmts = none)
    (hstmts : ∀ stmt ∈ stmts, (stmt.entry? options (commentsOf stmts)).map
      (Placed.map fun entry => (entry.steps scope).filterMap Step.namespace?) =
        stmt.placedNamespaces? scope) :
    (scopeSteps options scope stmts).filterMap Step.namespace? =
      namespacesInOrder scope stmts := by
  have hplaced : (stmts.filterMap (Stmt.entry? options (commentsOf stmts))).map
      (Placed.map fun entry => (entry.steps scope).filterMap Step.namespace?) =
        placedNamespacesOf scope stmts := by
    rw [List.map_filterMap, placedNamespacesOf_eq_filterMap]
    exact List.filterMap_congr hstmts
  rw [scopeSteps_filterMap (fun _ => rfl) hknown, namespacesInOrder, ← hplaced, sortPlaced_map,
    List.flatMap_map]
  rfl

theorem classEntry_steps_namespace? (head : Documented ClassHead) (body : List Stmt)
    (scope : Option Text) :
    ((classEntry head body).steps scope).filterMap Step.namespace? = [] := by
  rw [List.filterMap_eq_nil_iff]
  intro step hstep
  rw [classEntry] at hstep
  split at hstep
  · obtain rfl := List.mem_singleton.mp hstep
    rfl
  · rw [Entry.steps] at hstep
    rcases ClassEntry.mem_steps.mp hstep with rfl | ⟨method, -, rfl⟩ | rfl <;> rfl

theorem Stmt.entry?_namespaces (options : Options) (stmt : Stmt) :
    (∀ inner ∈ stmt.tree, inner.unknownKind? = none) → ∀ comments scope,
      (stmt.entry? options comments).map
          (Placed.map fun entry => (entry.steps scope).filterMap Step.namespace?) =
        stmt.placedNamespaces? scope := by
  induction stmt using Stmt.treeInduction with
  | classDecl head body _ =>
      intro _ comments scope
      simp only [Stmt.entry?, Option.map_some, Placed.map, classEntry_steps_namespace?]
      rfl
  | namespaceDecl head body ih =>
      intro hknown comments scope
      have hbody : ∀ inner ∈ treeOf body, inner.unknownKind? = none := fun inner hinner =>
        hknown inner (by rw [Stmt.tree]; exact List.mem_cons_of_mem _ hinner)
      have hinside :
          (scopeSteps options (some (qualify scope head.name)) body).filterMap
            Step.namespace? = namespacesInOrder (some (qualify scope head.name)) body :=
        scopeSteps_namespaces_of_entries (firstUnhandled?_eq_none_of_known hbody)
          fun stmt hstmt =>
            ih stmt hstmt (fun inner hinner => hbody inner (mem_treeOf_of_mem hstmt hinner)) _ _
      rw [Stmt.entry?_namespaceDecl, Stmt.placedNamespaces?_namespaceDecl, ← hinside]
      rfl
  | _ => exact fun _ _ _ => rfl

/-- The steps of a scope ask for its namespaces in the order of the source. -/
theorem scopeSteps_namespaces {stmts : List Stmt}
    (hknown : ∀ stmt ∈ treeOf stmts, stmt.unknownKind? = none) (options : Options)
    (scope : Option Text) :
    (scopeSteps options scope stmts).flatMap Step.namespaces = namespacesInOrder scope stmts := by
  rw [flatMap_namespaces]
  apply scopeSteps_namespaces_of_entries (firstUnhandled?_eq_none_of_known hknown)
  intro stmt hstmt
  exact stmt.entry?_namespaces options
    (fun inner hinner => hknown inner (mem_treeOf_of_mem hstmt hinner)) _ scope

/-- The first of some names that is a given one or stands below it. -/
def firstAtOrBelow? (name : Text) (reached : List Text) : Option Text :=
  reached.find? fun full => decide (IsDottedPrefix name full)

/-- A namespace of a scope that is reached asks for its container with the
comment that documents it there. -/
theorem ScopeWithin.openNamespace_mem {scope inner : Option Text} {stmts members : List Stmt}
    (hwithin : ScopeWithin scope stmts inner members)
    (hknown : ∀ stmt ∈ treeOf stmts, stmt.unknownKind? = none) {head : NamespaceHead}
    {body : List Stmt} (hmem : Stmt.namespaceDecl head body ∈ members) (options : Options) :
    .openNamespace (qualify inner head.name) (findDoc (commentsOf members) head.anchor) ∈
      scopeSteps options scope stmts := by
  apply (hwithin.scopeSteps_within hknown options).subset
  refine (mem_scopeSteps (firstUnhandled?_eq_none_of_known (hwithin.known hknown))).mpr
    (Or.inl ⟨_, hmem, _, Stmt.entry?_namespaceDecl options _ head body, ?_⟩)
  rw [Entry.steps]
  exact List.mem_cons_self

/-- Of steps that ask for a namespace there is one only, if the name comes up
once. -/
theorem eq_of_openNamespace_mem {before after : List Step} {full : Text}
    {doc doc' : Option Comment}
    (honce : ((before ++ .openNamespace full doc :: after).flatMap Step.namespaces).count full =
      1)
    (hmem : .openNamespace full doc' ∈ before ++ .openNamespace full doc :: after) :
    doc = doc' := by
  have hasks : ∀ {steps : List Step}, .openNamespace full doc' ∈ steps →
      full ∈ steps.flatMap Step.namespaces := fun hstep =>
    List.mem_flatMap.mpr ⟨_, hstep, List.mem_cons_self⟩
  rw [List.flatMap_append, List.flatMap_cons, List.count_append, List.count_append] at honce
  have hhere : (Step.openNamespace full doc).namespaces.count full = 1 := by
    simp [Step.namespaces]
  rcases List.mem_append.mp hmem with hbefore | hrest
  · have hearlier := List.count_pos_iff.mpr (hasks hbefore)
    omega
  · rcases List.mem_cons.mp hrest with heq | hafter
    · exact (Step.openNamespace.inj heq).2.symm
    · have hlater := List.count_pos_iff.mpr (hasks hafter)
      omega

/-- The comment of a namespace that is declared once stands at its container,
unless a namespace below it is reached before it: then the container has been
made without a comment. -/
theorem emitScope_containerHasText (ctx : Context) (scope inner : Option Text)
    (stmts members : List Stmt) (head : NamespaceHead) (body : List Stmt) (comment : Comment)
    (hknown : ∀ stmt ∈ treeOf stmts, stmt.unknownKind? = none)
    (hwithin : ScopeWithin scope stmts inner members)
    (hmem : Stmt.namespaceDecl head body ∈ members)
    (hdoc : findDoc (commentsOf members) head.anchor = some comment)
    (honce : (namespacesOf scope stmts).count (qualify inner head.name) = 1) :
    (emitScope ctx [] scope stmts).failure = none ∧
      (emitScope ctx [] scope stmts).text =
        .ok (Text.unlines ((emitScope ctx [] scope stmts).segments.map Segment.text)) ∧
      ContainerHasText (emitScope ctx [] scope stmts).segments (qualify inner head.name)
        (if firstAtOrBelow? (qualify inner head.name) (namespacesInOrder scope stmts) =
            some (qualify inner head.name)
          then bodyOf ctx.options comment.text else []) := by
  have hsuccess := emitScope_failure_eq_none hknown ctx [] scope
  refine ⟨hsuccess, Emission.text_of_success hsuccess, ?_⟩
  have hopen := hwithin.openNamespace_mem hknown hmem ctx.options
  have hreached := scopeSteps_namespaces hknown ctx.options scope
  rw [← (namespacesInOrder_perm scope stmts).count_eq, ← hreached] at honce
  rw [hdoc] at hopen
  generalize qualify inner head.name = name at *
  obtain ⟨before, full, doc, after, hsteps, hfirst, hbelow, htext⟩ :=
    exists_containerHasText_emit ctx (unhandled_notMem_scopeSteps hknown ctx.options scope)
      List.not_mem_nil ⟨name, List.mem_flatMap.mpr ⟨_, hopen, List.mem_cons_self⟩, .refl name⟩
  have hfind : firstAtOrBelow? name (namespacesInOrder scope stmts) = some full := by
    rw [← hreached, hsteps, List.flatMap_append, firstAtOrBelow?, List.find?_eq_some_iff_append]
    refine ⟨decide_eq_true hbelow, _, _, rfl, ?_⟩
    intro other hother
    simp [hfirst other hother]
  rw [hfind, emitScope]
  rw [hsteps] at honce hopen
  by_cases hself : full = name
  · obtain rfl := hself
    obtain rfl := eq_of_openNamespace_mem honce hopen
    simpa [docBody] using htext
  · have hother : name ≠ full := fun heq => hself heq.symm
    simpa [hself, hother] using htext

namespace ContainerDocsWitness

def moves : Comment := ⟨.ofLines 6 (some 7), "' Moves files.\n' Slowly.".toList⟩

def ftp : NamespaceHead := ⟨"Ftp".toList, .ofLines 8 (some 9)⟩

def netBody : List Stmt := [.comment moves, .namespaceDecl ftp []]

def talks : Comment := ⟨.ofLines 4 none, "' Talks.".toList⟩

def net : NamespaceHead := ⟨"Net".toList, .ofLines 5 (some 10)⟩

/-- A namespace with a comment behind one that stands below it, and inside it a
namespace with a comment in front of one that stands below that. -/
def file : List Stmt :=
  [.namespaceDecl ⟨"Net.Http".toList, .ofLines 1 (some 3)⟩ [], .comment talks,
    .namespaceDecl net netBody, .namespaceDecl ⟨"Net.Ftp.Passive".toList, .ofLines 11 none⟩ []]

end ContainerDocsWitness

theorem emitScope_containerHasText_net :
    ContainerHasText (emitScope {} [] none ContainerDocsWitness.file).segments
        (qualify (some "Net".toList) "Ftp".toList) ["Moves files.".toList, "Slowly.".toList] ∧
      ContainerHasText (emitScope {} [] none ContainerDocsWitness.file).segments
        (qualify none "Net".toList) [] := by
  have hnet : Stmt.namespaceDecl ContainerDocsWitness.net ContainerDocsWitness.netBody ∈
      ContainerDocsWitness.file := by
    simp [ContainerDocsWitness.file]
  have hftp : Stmt.namespaceDecl ContainerDocsWitness.ftp [] ∈ ContainerDocsWitness.netBody := by
    simp [ContainerDocsWitness.netBody]
  have hinside := emitScope_containerHasText {} none (some "Net".toList)
    ContainerDocsWitness.file ContainerDocsWitness.netBody ContainerDocsWitness.ftp []
    ContainerDocsWitness.moves (by decide) (.inside hnet (.self _ _)) hftp (by decide)
    (by decide)
  have houtside := emitScope_containerHasText {} none none ContainerDocsWitness.file
    ContainerDocsWitness.file ContainerDocsWitness.net ContainerDocsWitness.netBody
    ContainerDocsWitness.talks (by decide) (.self _ _) hnet (by decide) (by decide)
  rw [if_pos (by decide +kernel)] at hinside
  rw [if_neg (by decide +kernel)] at houtside
  have hlines : bodyOf {} ContainerDocsWitness.moves.text =
      ["Moves files.".toList, "Slowly.".toList] := by
    decide +kernel
  exact ⟨hlines ▸ hinside.2.2, houtside.2.2⟩

namespace ContainerDocsLost

def whole : Comment := ⟨.ofLines 4 none, "' The whole app.".toList⟩

def app : NamespaceHead := ⟨"App".toList, .ofLines 5 (some 6)⟩

def belowFirst : List Stmt :=
  [.namespaceDecl ⟨"App.Models".toList, .ofLines 1 (some 3)⟩ [], .comment whole,
    .namespaceDecl app []]

def hidden : Comment := ⟨.ofLines 2 none, "' Hidden.".toList⟩

def inner : NamespaceHead := ⟨"Inner".toList, .ofLines 3 (some 4)⟩

def poolBody : List Stmt := [.comment hidden, .namespaceDecl inner []]

/-- A namespace with a comment in a class, where nothing looks for it. -/
def inClass : List Stmt :=
  [.classDecl { name := "Pool".toList, range := .ofLines 1 (some 5) } poolBody]

end ContainerDocsLost

/-- The comment of a namespace that is declared once is lost behind a namespace
that stands below it, and in a class: no block that is written has any text. -/
theorem containerDocs_lost :
    (NamesDotted ContainerDocsLost.belowFirst ∧
      (∀ stmt ∈ treeOf ContainerDocsLost.belowFirst, stmt.unknownKind? = none) ∧
      findDoc (commentsOf ContainerDocsLost.belowFirst) ContainerDocsLost.app.anchor =
        some ContainerDocsLost.whole ∧
      (namespacesOf none ContainerDocsLost.belowFirst).count "App".toList = 1 ∧
      bodyOf {} ContainerDocsLost.whole.text = ["The whole app.".toList] ∧
      ∀ segment ∈ (emitScope {} [] none ContainerDocsLost.belowFirst).segments,
        ∀ block ∈ segment.block?, block.get .text = []) ∧
    (NamesDotted ContainerDocsLost.inClass ∧
      (∀ stmt ∈ treeOf ContainerDocsLost.inClass, stmt.unknownKind? = none) ∧
      findDoc (commentsOf ContainerDocsLost.poolBody) ContainerDocsLost.inner.anchor =
        some ContainerDocsLost.hidden ∧
      bodyOf {} ContainerDocsLost.hidden.text = ["Hidden.".toList] ∧
      ∀ segment ∈ (emitScope {} [] none ContainerDocsLost.inClass).segments,
        ∀ block ∈ segment.block?, block.get .text = []) := by
  decide +kernel

end DocWeave
