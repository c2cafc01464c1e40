/-
Where segments may stand.  A container comes after that of its parent and is
made once, and a declaration is put into a container that is there.  A step
keeps to this when the namespace it needs is open and the containers so far are
closed under dotted prefixes.
-/
import DocWeave.Proofs.Shape.Dotted

namespace DocWeave

def Segment.opened : Segment → List Text
  | .container qualified => [qualified]
  | _ => []

@[simp] theorem Segment.opened_block (b : DocBlock) : (Segment.block b).opened = [] := rfl

@[simp] theorem Segment.opened_classEnd : Segment.classEnd.opened = [] := rfl

@[simp] theorem Segment.opened_container (qualified : Text) :
    (Segment.container qualified).opened = [qualified] := rfl

/-- The containers some segments make, in order. -/
def containersOf (segments : List Segment) : List Text :=
  segments.flatMap Segment.opened

@[simp] theorem containersOf_nil : containersOf [] = [] := rfl

@[simp] theorem containersOf_cons (segment : Segment) (rest : List Segment) :
    containersOf (segment :: rest) = segment.opened ++ containersOf rest := rfl

@[simp] theorem containersOf_append (a b : List Segment) :
    containersOf (a ++ b) = containersOf a ++ containersOf b :=
  List.flatMap_append

/-- How the container of a name may be written where some containers exist: not
as one of these, as a variable if the name has no dot, and else as a member of
its parent, which is there. -/
def ContainerMayFollow (created : List Text) (qualified : Text) : Prop :=
  qualified ∉ created ∧
    (('.' ∉ qualified ∧
        (Segment.container qualified).text =
          "var ".toList ++ qualified ++ " = \x7b\x7d;".toList) ∨
      ∃ parent leaf, '.' ∉ leaf ∧ qualified = parent ++ '.' :: leaf ∧ parent ∈ created ∧
        (Segment.container qualified).text =
          parent ++ '.' :: leaf ++ " = \x7b\x7d;".toList)

/-- How a declaration may be put into a container where some exist: as a member of
one that is there. -/
def MemberMayFollow (created : List Text) (scope name : Text) : Prop :=
  scope ∈ created ∧
    (Segment.member scope name).text = scope ++ '.' :: name ++ " = ".toList ++ name ++ ";".toList

/-- Whether a segment may be written where some containers exist. -/
def Segment.MayFollow (created : List Text) : Segment → Prop
  | .container qualified => ContainerMayFollow created qualified
  | .member scope name => MemberMayFollow created scope name
  | _ => True

/-- Whether each segment may follow the containers there were and those that
the segments before it make. -/
def WellPlaced (created : List Text) (segments : List Segment) : Prop :=
  ∀ before segment after, segments = before ++ segment :: after →
    segment.MayFollow (created ++ containersOf before)

theorem wellPlaced_nil (created : List Text) : WellPlaced created [] := by
  intro before segment after h
  simp at h

theorem wellPlaced_cons {created : List Text} {segment : Segment} {rest : List Segment} :
    WellPlaced created (segment :: rest) ↔
      segment.MayFollow created ∧ WellPlaced (created ++ segment.opened) rest := by
  constructor
  · intro h
    constructor
    · simpa using h [] segment rest rfl
    · intro before later after hrest
      have hlater := h (segment :: before) later after (by rw [hrest, List.cons_append])
      rwa [containersOf_cons, ← List.append_assoc] at hlater
  · rintro ⟨hhere, hrest⟩ before later after h
    cases before with
    | nil =>
        obtain ⟨rfl, -⟩ := List.cons.inj h
        simpa using hhere
    | cons other before =>
        obtain ⟨rfl, htail⟩ := List.cons.inj h
        rw [containersOf_cons, ← List.append_assoc]
        exact hrest before later after htail

theorem wellPlaced_append {created : List Text} {a b : List Segment} :
    WellPlaced created (a ++ b) ↔
      WellPlaced created a ∧ WellPlaced (created ++ containersOf a) b := by
  induction a generalizing created with
  | nil => simp [wellPlaced_nil]
  | cons segment rest ih =>
      rw [List.cons_append, wellPlaced_cons, wellPlaced_cons, ih, containersOf_cons,
        List.append_assoc, and_assoc]

/-- Segments in their places make containers that were not there, each once. -/
theorem WellPlaced.nodup {created : List Text} {segments : List Segment}
    (h : WellPlaced created segments) :
    (containersOf segments).Nodup ∧ ∀ name ∈ containersOf segments, name ∉ created := by
  induction segments generalizing created with
  | nil => simp
  | cons segment rest ih =>
      obtain ⟨hhere, hrest⟩ := wellPlaced_cons.mp h
      obtain ⟨hnodup, hfresh⟩ := ih hrest
      cases segment with
      | container qualified =>
          simp only [containersOf_cons, Segment.opened_container, List.singleton_append,
            List.nodup_cons, List.mem_cons]
          refine ⟨⟨?_, hnodup⟩, ?_⟩
          · intro hmem
            exact hfresh qualified hmem (by simp)
          · rintro name (rfl | hmem)
            · exact hhere.1
            · intro hcreated
              exact hfresh name hmem (List.mem_append_left _ hcreated)
      | _ => simpa [Segment.opened] using And.intro hnodup hfresh

theorem Segment.text_container_of_dot_notMem {name : Text} (h : '.' ∉ name) :
    (Segment.container name).text = "var ".toList ++ name ++ " = \x7b\x7d;".toList := by
  rw [Segment.text_container, parentOf?_of_dot_notMem h]
  rfl

theorem Segment.text_container_of_parent {parent leaf : Text} (hleaf : '.' ∉ leaf)
    (hne : parent ≠ []) :
    (Segment.container (parent ++ '.' :: leaf)).text =
      parent ++ '.' :: leaf ++ " = \x7b\x7d;".toList := by
  rw [Segment.text_container, parentOf?_of_leaf hleaf hne]
  rfl

theorem mem_missingContainers {created : List Text} {full name : Text} :
    name ∈ missingContainers created full ↔ name ∉ created ∧ IsDottedPrefix name full := by
  simp [missingContainers, mem_dottedStarts, and_comm]

theorem missingContainers_nodup (created : List Text) (full : Text) :
    (missingContainers created full).Nodup :=
  ((dottedStarts_pairwise full).filter _).imp fun hlt heq => by simp [heq] at hlt

/-- After the containers of a namespace are written, all its dotted prefixes
are there. -/
theorem mem_append_missingContainers {created : List Text} {full name : Text} :
    name ∈ created ++ missingContainers created full ↔
      name ∈ created ∨ IsDottedPrefix name full := by
  rw [List.mem_append, mem_missingContainers]
  by_cases h : name ∈ created
  · simp [h]
  · simp [h]

/-- Whether a namespace is opened at the top, or inside a namespace that is
already open. -/
def OpensWithin (opened : List Text) (full : Text) : Prop :=
  (∀ rest, full ≠ '.' :: rest) ∨
    ∃ outer ∈ opened, outer ≠ [] ∧ ∃ name, full = outer ++ '.' :: name

theorem OpensWithin.mono {opened opened' : List Text} {full : Text}
    (h : OpensWithin opened full) (hsub : opened ⊆ opened') : OpensWithin opened' full := by
  rcases h with htop | ⟨outer, houter, hne, hname⟩
  · exact Or.inl htop
  · exact Or.inr ⟨outer, hsub houter, hne, hname⟩

/-- A container that is missing has a parent with a name, unless it has no dot. -/
theorem parent_ne_nil_of_mem_missingContainers {created : List Text} {full : Text}
    (hclosed : PrefixClosed created) (hwithin : OpensWithin created full)
    {parent leaf : Text} (hleaf : '.' ∉ leaf)
    (hmem : parent ++ '.' :: leaf ∈ missingContainers created full) : parent ≠ [] := by
  rintro rfl
  obtain ⟨hnew, hstart⟩ := mem_missingContainers.mp hmem
  rcases hwithin with htop | ⟨outer, houter, hne, name, rfl⟩
  · obtain ⟨rest, hfull⟩ := hstart.isPrefix
    exact htop (leaf ++ rest) hfull.symm
  · rcases hstart.of_append_dot with habove | ⟨rest, hlonger⟩
    · exact hnew (hclosed outer houter _ habove (List.cons_ne_nil '.' leaf))
    · cases outer with
      | nil => exact hne rfl
      | cons c outer =>
          obtain ⟨-, rfl⟩ := List.cons.inj hlonger
          exact hleaf (List.mem_append_right outer List.mem_cons_self)

/-- Containers are missing from the shortest name to the longest, so the parent
of one is there or missing before it. -/
theorem parent_mem_of_missingContainers_eq {created : List Text} {full : Text}
    {parent leaf : Text} {before after : List Text}
    (h : missingContainers created full = before ++ (parent ++ '.' :: leaf) :: after) :
    parent ∈ created ++ before := by
  have hmem : parent ++ '.' :: leaf ∈ missingContainers created full := by
    rw [h]
    exact List.mem_append_right before List.mem_cons_self
  have hparent : IsDottedPrefix parent full :=
    IsDottedPrefix.trans (Or.inr ⟨leaf, rfl⟩) (mem_missingContainers.mp hmem).2
  have hlength : (missingContainers created full).Pairwise
      fun a b => a.length < b.length :=
    (dottedStarts_pairwise full).filter _
  rw [h, List.pairwise_append, List.pairwise_cons] at hlength
  obtain ⟨-, ⟨hafter, -⟩, -⟩ := hlength
  have hshorter : parent.length < (parent ++ '.' :: leaf).length := by
    rw [List.length_append, List.length_cons]
    omega
  have hthere : parent ∈ created ++ missingContainers created full :=
    mem_append_missingContainers.mpr (Or.inr hparent)
  rw [h, ← List.append_assoc] at hthere
  rcases List.mem_append.mp hthere with hbefore | hlater
  · exact hbefore
  · rcases List.mem_cons.mp hlater with heq | hafterwards
    · exact absurd (congrArg List.length heq) (Nat.ne_of_lt hshorter)
    · exact absurd (hafter parent hafterwards) (Nat.lt_asymm hshorter)

theorem containerMayFollow_of_missingContainers_eq {created : List Text} {full name : Text}
    (hclosed : PrefixClosed created) (hwithin : OpensWithin created full)
    {before after : List Text}
    (h : missingContainers created full = before ++ name :: after) :
    ContainerMayFollow (created ++ before) name := by
  have hmem : name ∈ missingContainers created full := by
    rw [h]
    exact List.mem_append_right before List.mem_cons_self
  have hnodup := missingContainers_nodup created full
  constructor
  · intro hname
    rcases List.mem_append.mp hname with hcreated | hbefore
    · exact (mem_missingContainers.mp hmem).1 hcreated
    · rw [h] at hnodup
      exact (List.nodup_append.mp hnodup).2.2 name hbefore name List.mem_cons_self rfl
  · by_cases hdot : '.' ∈ name
    · obtain ⟨parent, leaf, hleaf, rfl⟩ := exists_leaf_of_dot_mem hdot
      have hne := parent_ne_nil_of_mem_missingContainers hclosed hwithin hleaf hmem
      refine Or.inr ⟨parent, leaf, hleaf, rfl, parent_mem_of_missingContainers_eq h, ?_⟩
      exact Segment.text_container_of_parent hleaf hne
    · exact Or.inl ⟨hdot, Segment.text_container_of_dot_notMem hdot⟩

theorem containersOf_containerSegments (ctx : Context) (full : Text) (doc : Option Comment)
    (names : List Text) :
    containersOf (names.flatMap (ctx.containerSegments full doc)) = names := by
  induction names with
  | nil => rfl
  | cons name rest ih =>
      rw [List.flatMap_cons, containersOf_append, ih]
      rfl

theorem wellPlaced_containerSegments (ctx : Context) (full : Text) (doc : Option Comment)
    {created names : List Text}
    (h : ∀ before name after, names = before ++ name :: after →
      ContainerMayFollow (created ++ before) name) :
    WellPlaced created (names.flatMap (ctx.containerSegments full doc)) := by
  induction names generalizing created with
  | nil => exact wellPlaced_nil created
  | cons name rest ih =>
      have hhere : ContainerMayFollow created name := by
        simpa using h [] name rest rfl
      have hrest : WellPlaced (created ++ [name])
          (rest.flatMap (ctx.containerSegments full doc)) := by
        apply ih
        intro before later after hsplit
        have hlater := h (name :: before) later after (by rw [hsplit, List.cons_append])
        rwa [List.append_cons] at hlater
      rw [List.flatMap_cons, wellPlaced_append]
      refine ⟨?_, hrest⟩
      refine wellPlaced_cons.mpr ⟨trivial, wellPlaced_cons.mpr ⟨?_, wellPlaced_nil _⟩⟩
      rwa [Segment.opened_block, List.append_nil]

/-- Whether a step can be written once some namespaces are open: a declaration
is put into one of them, and a namespace is opened within one of them. -/
def Step.Ready (opened : List Text) : Step → Prop
  | .callable home _ => ∀ outer, home = .scope (some outer) → outer ≠ [] → outer ∈ opened
  | .classEnd scope _ => ∀ outer ∈ scope, outer ≠ [] → outer ∈ opened
  | .openNamespace full _ => OpensWithin opened full
  | _ => True

theorem Step.Ready.mono {opened opened' : List Text} {step : Step} (h : step.Ready opened)
    (hsub : opened ⊆ opened') : step.Ready opened' := by
  cases step with
  | callable home c => exact fun outer hhome hne => hsub (h outer hhome hne)
  | classEnd scope name => exact fun outer houter hne => hsub (h outer houter hne)
  | openNamespace full doc => exact OpensWithin.mono h hsub
  | _ => trivial

theorem containersOf_memberSegments (scope : Option Text) (name : Text) :
    containersOf (memberSegments scope name) = [] := by
  unfold memberSegments
  cases scope.bind Text.given? <;> rfl

theorem wellPlaced_memberSegments {created : List Text} {scope : Option Text}
    (h : ∀ outer ∈ scope, outer ≠ [] → outer ∈ created) (name : Text) :
    WellPlaced created (memberSegments scope name) := by
  unfold memberSegments
  cases hgiven : scope.bind Text.given? with
  | none => exact wellPlaced_nil created
  | some outer =>
      obtain ⟨hscope, hne⟩ := eq_of_bind_given? hgiven
      exact wellPlaced_cons.mpr ⟨⟨h outer hscope hne, rfl⟩, wellPlaced_nil _⟩

@[simp] theorem Callable.stub_opened (options : Options) (c : Callable) :
    (c.stub options).opened = [] := by
  unfold Callable.stub
  cases c.role <;> rfl

theorem Callable.stub_mayFollow (options : Options) (c : Callable) (created : List Text) :
    (c.stub options).MayFollow created := by
  unfold Callable.stub
  cases c.role <;> trivial

/-- A step makes the containers it counts as opened. -/
theorem containersOf_step_segments (ctx : Context) (created : List Text) (step : Step) :
    containersOf (step.segments ctx created) = step.opened created := by
  cases step with
  | callable home c =>
      simp [Step.segments, Step.opened, containersOf_memberSegments]
  | classEnd scope name =>
      simp [Step.segments, Step.opened, containersOf_memberSegments]
  | openNamespace full doc => exact containersOf_containerSegments ctx full doc _
  | _ => rfl

/-- What a step writes is in its place when the step is ready. -/
theorem wellPlaced_step_segments (ctx : Context) {created : List Text}
    (hclosed : PrefixClosed created) {step : Step} (hready : step.Ready created) :
    WellPlaced created (step.segments ctx created) := by
  cases step with
  | callable home c =>
      have hmember : WellPlaced created
          (memberSegments (home.membership ctx.moduleName).2 c.decl.name) := by
        apply wellPlaced_memberSegments
        intro outer houter hne
        cases home with
        | scope name => exact hready outer (congrArg Home.scope houter) hne
        | classBody => cases houter
      have hblock : WellPlaced created
          [.block (ctx.callableDoc home c).block, c.decl.stub ctx.options] := by
        refine wellPlaced_cons.mpr ⟨trivial, wellPlaced_cons.mpr ⟨?_, wellPlaced_nil _⟩⟩
        exact Callable.stub_mayFollow ctx.options c.decl _
      refine wellPlaced_append.mpr ⟨hblock, ?_⟩
      simpa using hmember
  | classStart scope c =>
      exact wellPlaced_cons.mpr ⟨trivial, wellPlaced_cons.mpr ⟨trivial, wellPlaced_nil _⟩⟩
  | classEnd scope name =>
      refine wellPlaced_cons.mpr ⟨trivial, ?_⟩
      simpa using wellPlaced_memberSegments hready name
  | openNamespace full doc =>
      apply wellPlaced_containerSegments
      intro before name after hsplit
      exact containerMayFollow_of_missingContainers_eq hclosed hready hsplit
  | detached c => exact wellPlaced_cons.mpr ⟨trivial, wellPlaced_nil _⟩
  | unhandled e => exact wellPlaced_nil created

end DocWeave
