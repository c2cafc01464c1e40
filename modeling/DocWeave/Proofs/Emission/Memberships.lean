/-
Members of namespaces.  The shapes of a namespace and what is written for it
come from two walks over the same body.  They meet the same declarations in the
same order and under the same names: each callable and each class of a shape is
put into its namespace by one assignment, behind a block that names the
namespace, and the containers written are those of the namespaces in the shape.
-/
import DocWeave.Proofs.Convert.Failure
import DocWeave.Proofs.Emission.Containers
import DocWeave.Proofs.Reconcile.Entries

namespace DocWeave

/-- A declaration with the namespace it is a member of. -/
structure Membership where
  scope : Text
  name : Text
  deriving DecidableEq, Repr

mutual
/-- The memberships in the shape of a member of a namespace.  A namespace is no
member itself, but has members. -/
def DeclShape.memberships (scope : Text) : DeclShape → List Membership
  | .callable s => [⟨scope, s.name⟩]
  | .classDecl s => [⟨scope, s.name⟩]
  | .namespaceDecl header members => membershipsOf header.qualified members

/-- The memberships in the shapes of a namespace, those of a nested namespace at
its place. -/
def membershipsOf (scope : Text) : List DeclShape → List Membership
  | [] => []
  | shape :: rest => shape.memberships scope ++ membershipsOf scope rest
end

mutual
/-- The qualified names of the namespaces in a shape, each before those in it. -/
def DeclShape.qualifiedNames : DeclShape → List Text
  | .namespaceDecl header members => header.qualified :: qualifiedNamesOf members
  | _ => []

/-- The qualified names of the namespaces in some shapes. -/
def qualifiedNamesOf : List DeclShape → List Text
  | [] => []
  | shape :: rest => shape.qualifiedNames ++ qualifiedNamesOf rest
end

theorem membershipsOf_append (scope : Text) (a b : List DeclShape) :
    membershipsOf scope (a ++ b) = membershipsOf scope a ++ membershipsOf scope b := by
  induction a with
  | nil => rfl
  | cons shape rest ih => simp only [List.cons_append, membershipsOf, ih, List.append_assoc]

theorem qualifiedNamesOf_append (a b : List DeclShape) :
    qualifiedNamesOf (a ++ b) = qualifiedNamesOf a ++ qualifiedNamesOf b := by
  induction a with
  | nil => rfl
  | cons shape rest ih => simp only [List.cons_append, qualifiedNamesOf, ih, List.append_assoc]

/-- The membership of a name in a scope, if the scope counts. -/
def membershipIn (scope : Option Text) (name : Text) : List Membership :=
  ((scope.bind Text.given?).map (⟨·, name⟩)).toList

/-- The membership a step writes. -/
def Step.memberships : Step → List Membership
  | .callable (.scope scope) c => membershipIn scope c.decl.name
  | .classEnd scope name => membershipIn scope name
  | _ => []

def Membership.segment (m : Membership) : Segment :=
  .member m.scope m.name

/-- The assignment for a membership as it is written. -/
def Membership.assignment (m : Membership) : Text :=
  m.scope ++ '.' :: m.name ++ " = ".toList ++ m.name ++ ";".toList

def Segment.isMember : Segment → Bool
  | .member _ _ => true
  | _ => false

theorem membershipIn_of_ne_nil {scope : Text} (hscope : scope ≠ []) (name : Text) :
    membershipIn (some scope) name = [⟨scope, name⟩] := by
  have hgiven : (some scope).bind Text.given? = some scope :=
    (Text.given?_eq_some_iff scope scope).mpr ⟨rfl, hscope⟩
  rw [membershipIn, hgiven]
  rfl

theorem memberSegments_eq_map (scope : Option Text) (name : Text) :
    memberSegments scope name = (membershipIn scope name).map Membership.segment := by
  rw [memberSegments, membershipIn, ← Option.toList_map, Option.map_map]
  rfl

theorem memberSegments_filter_isMember (scope : Option Text) (name : Text) :
    (memberSegments scope name).filter Segment.isMember =
      (membershipIn scope name).map Membership.segment := by
  rw [← memberSegments_eq_map, List.filter_eq_self]
  intro segment hsegment
  obtain ⟨outer, rfl⟩ := mem_memberSegments hsegment
  rfl

theorem Callable.stub_isMember (options : Options) (c : Callable) :
    (c.stub options).isMember = false := by
  rw [Callable.stub]
  split <;> rfl

theorem Step.isMember_of_mem_openNamespace {ctx : Context} {qualified : Text}
    {doc : Option Comment} {created : List Text} {segment : Segment}
    (h : segment ∈ (Step.openNamespace qualified doc).segments ctx created) :
    segment.isMember = false := by
  rcases mem_openNamespace_segments h with ⟨entries, rfl⟩ | ⟨name, rfl⟩ <;> rfl

/-- The assignments a step writes are those for its memberships. -/
theorem Step.segments_filter_isMember (ctx : Context) (step : Step) (created : List Text) :
    (step.segments ctx created).filter Segment.isMember =
      step.memberships.map Membership.segment := by
  cases step with
  | callable home c =>
      have hstub := Callable.stub_isMember ctx.options c.decl
      rw [Step.segments, List.filter_append, memberSegments_filter_isMember,
        List.filter_cons_of_neg (by simp [Segment.isMember]),
        List.filter_cons_of_neg (by simp [hstub])]
      cases home with
      | scope | classBody => rfl
  | classEnd scope name =>
      rw [Step.segments, List.filter_cons_of_neg (by simp [Segment.isMember]),
        memberSegments_filter_isMember]
      rfl
  | openNamespace qualified doc =>
      change List.filter Segment.isMember _ = []
      rw [List.filter_eq_nil_iff]
      intro segment hsegment
      simp [Step.isMember_of_mem_openNamespace hsegment]
  | classStart | detached | unhandled => rfl

/-- Steps in a namespace and the shapes of it have the same members and the same
namespaces, in the same order. -/
structure WalkAlike (scope : Text) (steps : List Step) (shapes : List DeclShape) : Prop where
  memberships : steps.flatMap Step.memberships = membershipsOf scope shapes
  namespaces : steps.flatMap Step.namespaces = qualifiedNamesOf shapes

theorem WalkAlike.append {scope : Text} {steps steps' : List Step}
    {shapes shapes' : List DeclShape} (h : WalkAlike scope steps shapes)
    (h' : WalkAlike scope steps' shapes') :
    WalkAlike scope (steps ++ steps') (shapes ++ shapes') where
  memberships := by
    rw [List.flatMap_append, h.memberships, h'.memberships, membershipsOf_append]
  namespaces := by
    rw [List.flatMap_append, h.namespaces, h'.namespaces, qualifiedNamesOf_append]

theorem qualify_ne_nil_of_name (scope : Option Text) {name : Text} (hname : name ≠ []) :
    qualify scope name ≠ [] := by
  rw [qualify]
  split
  · simp
  · exact hname

theorem qualify_ne_nil_of_scope {scope : Text} (hscope : scope ≠ []) (name : Text) :
    qualify (some scope) name ≠ [] := by
  have hgiven : (some scope).bind Text.given? = some scope :=
    (Text.given?_eq_some_iff scope scope).mpr ⟨rfl, hscope⟩
  rw [qualify, hgiven]
  simp

theorem walkAlike_callable {scope : Text} (hscope : scope ≠ []) (c : Documented Callable)
    (s : Signature) (hname : s.name = c.decl.name) :
    WalkAlike scope [.callable (.scope (some scope)) c] [.callable s] where
  memberships := by
    simp [Step.memberships, membershipIn_of_ne_nil hscope, membershipsOf, DeclShape.memberships,
      hname]
  namespaces := rfl

theorem walkAlike_classDecl {scope : Text} (hscope : scope ≠ []) (c : ClassEntry)
    (s : ClassShape) (hname : s.name = c.head.decl.name) :
    WalkAlike scope (c.steps (some scope)) [.classDecl s] where
  memberships := by
    have hmethods : (c.methods.map (Step.callable .classBody)).flatMap Step.memberships = [] := by
      simp [List.flatMap_map, Step.memberships]
    simp [ClassEntry.steps, Step.memberships, hmethods, membershipIn_of_ne_nil hscope,
      membershipsOf, DeclShape.memberships, hname]
  namespaces := by
    have hmethods : (c.methods.map (Step.callable .classBody)).flatMap Step.namespaces = [] := by
      simp [List.flatMap_map, Step.namespaces]
    simp [ClassEntry.steps, Step.namespaces, hmethods, qualifiedNamesOf,
      DeclShape.qualifiedNames]

theorem WalkAlike.inNamespace {scope : Text} {head : NamespaceHead} {steps : List Step}
    {members : List DeclShape}
    (h : WalkAlike (qualify (some scope) head.name) steps members) (doc : Option Comment) :
    WalkAlike scope (.openNamespace (qualify (some scope) head.name) doc :: steps)
      [.namespaceDecl (.of (some scope) head) members] where
  memberships := by
    simp [Step.memberships, h.memberships, membershipsOf, DeclShape.memberships,
      NamespaceHeader.of]
  namespaces := by
    simp [Step.namespaces, h.namespaces, qualifiedNamesOf, DeclShape.qualifiedNames,
      NamespaceHeader.of]

mutual
/-- The shapes of an entry are walked like its steps. -/
theorem Entry.walkAlike_shapes {options : Options} {lines : List Text} {scope : Text}
    (hscope : scope ≠ []) : (entry : Entry) → {shapes : List DeclShape} →
    entry.shapes options lines (some scope) = .ok shapes →
      WalkAlike scope (entry.steps (some scope)) shapes
  | .callable c, shapes, h => by
      obtain rfl := Except.ok.inj h
      rw [Entry.steps]
      exact walkAlike_callable hscope c _ rfl
  | .classDecl c, shapes, h => by
      obtain rfl := Except.ok.inj h
      rw [Entry.steps]
      exact walkAlike_classDecl hscope c _ rfl
  | .namespaceDecl head members, shapes, h => by
      rw [Entry.shapes] at h
      rcases hinner : shapesOf options lines (some (qualify (some scope) head.decl.name)) members
        with e | inner
      · simp [NamespaceHeader.of, hinner, bind, Except.bind] at h
      · have hmembers := walkAlike_shapesOf
          (qualify_ne_nil_of_scope hscope head.decl.name) members hinner
        simp only [NamespaceHeader.of, hinner, bind, Except.bind, pure, Except.pure] at h
        obtain rfl := Except.ok.inj h
        rw [Entry.steps]
        exact hmembers.inNamespace head.doc
  | .detached c, shapes, h => by
      obtain rfl := Except.ok.inj h
      exact ⟨rfl, rfl⟩
  | .unhandled e, shapes, h => by cases h

/-- The shapes of the entries of a namespace are walked like their steps. -/
theorem walkAlike_shapesOf {options : Options} {lines : List Text} {scope : Text}
    (hscope : scope ≠ []) : (entries : List Entry) → {shapes : List DeclShape} →
    shapesOf options lines (some scope) entries = .ok shapes →
      WalkAlike scope (stepsOf (some scope) entries) shapes
  | [], shapes, h => by
      obtain rfl := Except.ok.inj h
      exact ⟨rfl, rfl⟩
  | entry :: rest, shapes, h => by
      rw [shapesOf] at h
      rcases hhere : entry.shapes options lines (some scope) with e | here
      · simp [hhere, bind, Except.bind] at h
      · rcases hlater : shapesOf options lines (some scope) rest with e | later
        · simp [hhere, hlater, bind, Except.bind] at h
        · simp only [hhere, hlater, bind, Except.bind, pure, Except.pure] at h
          obtain rfl := Except.ok.inj h
          rw [stepsOf]
          exact (entry.walkAlike_shapes hscope hhere).append
            (walkAlike_shapesOf hscope rest hlater)
end

/-- The segments of a declaration in a namespace: its block, the stub or the class,
and the assignment that puts it there. -/
inductive DeclaredIn (options : Options) (scope : Text) : Text → DocBlock → List Segment → Prop
  | callable (block : DocBlock) (c : Callable) :
      DeclaredIn options scope c.name block
        [.block block, c.stub options, .member scope c.name]
  | classDecl (block : DocBlock) (name : Text) (parent : Option Text)
      (methods : List (DocBlock × Callable)) :
      DeclaredIn options scope name block
        (.block block :: .classStart name parent ::
          methods.flatMap (fun m => [.block m.1, m.2.stub options]) ++
            [.classEnd, .member scope name])

/-- Segments that end with a declaration in a namespace, whose block names the
namespace where it is printed. -/
def EndsDocumented (options : Options) (scope name : Text) (segments : List Segment) : Prop :=
  ∃ earlier declared block, segments = earlier ++ declared ∧
    DeclaredIn options scope name block declared ∧
    block.get .memberOf = ["@memberof module:".toList ++ scope] ∧
    (Segment.block block).text = block.render

/-- Each assignment stands at the end of a declaration whose block names the
namespace it is put into. -/
def MembersDocumented (options : Options) (segments : List Segment) : Prop :=
  ∀ before scope name after, segments = before ++ .member scope name :: after →
    EndsDocumented options scope name (before ++ [.member scope name])

theorem EndsDocumented.append_left {options : Options} {scope name : Text}
    {segments : List Segment} (h : EndsDocumented options scope name segments)
    (front : List Segment) : EndsDocumented options scope name (front ++ segments) := by
  obtain ⟨earlier, declared, block, rfl, hdeclared, hblock⟩ := h
  exact ⟨front ++ earlier, declared, block, (List.append_assoc _ _ _).symm, hdeclared, hblock⟩

theorem membersDocumented_of_isMember {options : Options} {segments : List Segment}
    (h : ∀ segment ∈ segments, segment.isMember = false) :
    MembersDocumented options segments := by
  rintro before scope name after rfl
  have hmember := h (.member scope name) (List.mem_append_right before List.mem_cons_self)
  simp [Segment.isMember] at hmember

theorem MembersDocumented.append {options : Options} {a b : List Segment}
    (ha : MembersDocumented options a) (hb : MembersDocumented options b) :
    MembersDocumented options (a ++ b) := by
  intro before scope name after hsplit
  have hlater : ∀ front, before = a ++ front → b = front ++ .member scope name :: after →
      EndsDocumented options scope name (before ++ [.member scope name]) := by
    rintro front rfl hfront
    rw [List.append_assoc]
    exact (hb front scope name after hfront).append_left a
  rcases List.append_eq_append_iff.mp hsplit with ⟨front, hbefore, hfront⟩ | ⟨rest, ha', hrest⟩
  · exact hlater front hbefore hfront
  · rcases List.cons_eq_append_iff.mp hrest with ⟨rfl, hb'⟩ | ⟨more, rfl, -⟩
    · exact hlater [] (by simpa using ha'.symm) hb'
    · exact ha before scope name more ha'

/-- A declaration with its own assignment at the end is documented if its block
names the namespace. -/
theorem DeclaredIn.membersDocumented {options : Options} {scope name : Text} {block : DocBlock}
    {front : List Segment}
    (hdeclared : DeclaredIn options scope name block (front ++ [.member scope name]))
    (hfront : ∀ segment ∈ front, segment.isMember = false)
    (hblock : block.get .memberOf = ["@memberof module:".toList ++ scope]) :
    MembersDocumented options (front ++ [.member scope name]) := by
  intro before scope' name' after hsplit
  have hlast : front = before ∧ [Segment.member scope name] = .member scope' name' :: after := by
    rcases List.append_eq_append_iff.mp hsplit with ⟨rest, rfl, hrest⟩ | ⟨rest, rfl, hrest⟩
    · rcases rest with _ | ⟨segment, rest⟩
      · exact ⟨(List.append_nil front).symm, hrest⟩
      · simp at hrest
    · rcases List.cons_eq_append_iff.mp hrest with ⟨rfl, hmember⟩ | ⟨more, rfl, -⟩
      · exact ⟨List.append_nil before, hmember⟩
      · simpa [Segment.isMember] using
          hfront (.member scope' name') (List.mem_append_right before List.mem_cons_self)
  obtain ⟨rfl, hmember⟩ := hlast
  obtain ⟨rfl, rfl⟩ := Segment.member.inj (List.cons.inj hmember).1
  exact ⟨[], _, block, rfl, hdeclared, hblock, rfl⟩

theorem linesUnder_memberOf_memberEntries (moduleName scope : Option Text) :
    linesUnder .memberOf (memberEntries moduleName scope) =
      (memberLine? moduleName scope).toList := by
  rw [memberEntries]
  cases memberLine? moduleName scope with
  | none => rfl
  | some line => simp

/-- Where a scope counts, its name is the one that stands in the block. -/
theorem memberLine?_of_scope {scope : Option Text} {outer : Text}
    (houter : scope.bind Text.given? = some outer) (moduleName : Option Text) :
    memberLine? moduleName scope = some ("@memberof module:".toList ++ outer) := by
  rw [memberLine?, houter]
  rfl

theorem documentCallable_get_memberOf (options : Options) (moduleName scope : Option Text)
    (s : Signature) (body : List Text) :
    (documentCallable options moduleName scope s body).block.get .memberOf =
      (memberLine? moduleName scope).toList := by
  rw [documentCallable, DocBlock.get_ofEntries]
  simp (disch := decide) only [linesUnder_append, linesUnder_map, linesUnder_cons,
    linesUnder_nil, linesUnder_accessEntries, linesUnder_roleEntries,
    linesUnder_memberOf_memberEntries]
  simp

theorem documentClass_get_memberOf (options : Options) (moduleName scope : Option Text)
    (s : ClassShape) (body : List Text) :
    (documentClass options moduleName scope s body).get .memberOf =
      (memberLine? moduleName scope).toList := by
  rw [documentClass, DocBlock.get_ofEntries]
  simp (disch := decide) only [linesUnder_append, linesUnder_map, linesUnder_parentEntry,
    linesUnder_propertyLines, linesUnder_memberOf_memberEntries]
  simp

theorem membersDocumented_callable (ctx : Context) (scope : Option Text)
    (c : Documented Callable) (created : List Text) :
    MembersDocumented ctx.options ((Step.callable (.scope scope) c).segments ctx created) := by
  have hfront : ∀ segment ∈ [.block (ctx.callableDoc (.scope scope) c).block,
      c.decl.stub ctx.options], Segment.isMember segment = false := by
    intro segment hsegment
    simp only [List.mem_cons, List.not_mem_nil, or_false] at hsegment
    rcases hsegment with rfl | rfl
    · rfl
    · exact Callable.stub_isMember ctx.options c.decl
  rcases houter : scope.bind Text.given? with _ | outer
  · simpa [Step.segments, Home.membership, memberSegments, houter] using
      membersDocumented_of_isMember hfront
  · have hblock := documentCallable_get_memberOf ctx.options ctx.moduleName scope
      (.of ctx.options ctx.lines c.decl) (docBody ctx.options c.doc)
    rw [memberLine?_of_scope houter] at hblock
    simpa [Step.segments, Home.membership, memberSegments, houter] using
      (DeclaredIn.callable _ c.decl).membersDocumented hfront hblock

/-- Steps that open nothing are written one by one. -/
theorem emit_segments_of_opened_nil {ctx : Context} {created : List Text} {steps : List Step}
    (hhandled : ∀ e, .unhandled e ∉ steps) (hopened : ∀ step ∈ steps, step.opened created = []) :
    (emit ctx created steps).segments = steps.flatMap (Step.segments ctx created) := by
  induction steps with
  | nil => rfl
  | cons step rest ih =>
      obtain ⟨hstep, hrest⟩ := handled_cons hhandled
      have hlater := ih hrest fun later hlater => hopened later (List.mem_cons_of_mem step hlater)
      simp only [emit_cons ctx created hstep, hopened step List.mem_cons_self, List.append_nil,
        hlater, List.flatMap_cons]

def Context.classBlock (ctx : Context) (scope : Option Text) (c : ClassEntry) : DocBlock :=
  documentClass ctx.options ctx.moduleName scope (.of ctx.options ctx.lines c)
    (docBody ctx.options c.head.doc)

/-- The block and the declaration of each method of a class. -/
def Context.methodDocs (ctx : Context) (c : ClassEntry) : List (DocBlock × Callable) :=
  c.methods.map fun m => ((ctx.callableDoc .classBody m).block, m.decl)

/-- A class up to its end, with its block. -/
def Context.classSegments (ctx : Context) (scope : Option Text) (c : ClassEntry) :
    List Segment :=
  .block (ctx.classBlock scope c) ::
    .classStart c.head.decl.name (ClassShape.of ctx.options ctx.lines c).parent ::
    (ctx.methodDocs c).flatMap (fun m => [.block m.1, m.2.stub ctx.options]) ++ [.classEnd]

theorem Context.classSegments_isMember (ctx : Context) (scope : Option Text) (c : ClassEntry) :
    ∀ segment ∈ ctx.classSegments scope c, segment.isMember = false := by
  intro segment hsegment
  simp only [Context.classSegments, List.cons_append, List.mem_cons, List.mem_append,
    List.mem_flatMap, List.not_mem_nil, or_false] at hsegment
  rcases hsegment with rfl | rfl | ⟨method, -, rfl | rfl⟩ | rfl
  · rfl
  · rfl
  · rfl
  · exact Callable.stub_isMember ctx.options method.2
  · rfl

theorem ClassEntry.emit_segments (ctx : Context) (created : List Text) (scope : Option Text)
    (c : ClassEntry) :
    (emit ctx created (c.steps scope)).segments =
      ctx.classSegments scope c ++ memberSegments scope c.head.decl.name := by
  have hhandled : ∀ e, .unhandled e ∉ c.steps scope := by
    simp [ClassEntry.steps]
  have hopened : ∀ step ∈ c.steps scope, step.opened created = [] := by
    intro step hstep
    rcases ClassEntry.mem_steps.mp hstep with rfl | ⟨method, -, rfl⟩ | rfl <;> rfl
  rw [emit_segments_of_opened_nil hhandled hopened]
  simp [ClassEntry.steps, Context.classSegments, Context.classBlock, Context.methodDocs,
    Step.segments, List.flatMap_map, Home.membership, memberSegments, ClassShape.of]

theorem membersDocumented_class (ctx : Context) (scope : Option Text) (c : ClassEntry)
    (created : List Text) :
    MembersDocumented ctx.options (emit ctx created (c.steps scope)).segments := by
  have hfront := ctx.classSegments_isMember scope c
  rw [c.emit_segments, memberSegments]
  rcases houter : scope.bind Text.given? with _ | outer
  · simpa using membersDocumented_of_isMember hfront
  · have hblock : (ctx.classBlock scope c).get .memberOf =
        ["@memberof module:".toList ++ outer] := by
      rw [Context.classBlock, documentClass_get_memberOf, memberLine?_of_scope houter]
      rfl
    refine DeclaredIn.membersDocumented ?_ hfront hblock
    simpa [Context.classSegments] using DeclaredIn.classDecl (ctx.classBlock scope c)
      c.head.decl.name (ClassShape.of ctx.options ctx.lines c).parent (ctx.methodDocs c)

mutual
/-- All that an entry puts into a namespace is documented. -/
theorem Entry.membersDocumented_emit (ctx : Context) (scope : Option Text) :
    (entry : Entry) → (∀ e, .unhandled e ∉ entry.steps scope) → (created : List Text) →
      MembersDocumented ctx.options (emit ctx created (entry.steps scope)).segments
  | .callable c, _, created => by
      rw [Entry.steps, emit_cons ctx created (by simp)]
      exact (membersDocumented_callable ctx scope c created).append
        (membersDocumented_of_isMember (by simp [emit]))
  | .classDecl c, _, created => by
      rw [Entry.steps]
      exact membersDocumented_class ctx scope c created
  | .namespaceDecl head members, hhandled, created => by
      rw [Entry.steps] at hhandled ⊢
      obtain ⟨hopen, hmembers⟩ := handled_cons hhandled
      rw [emit_cons ctx created hopen]
      exact (membersDocumented_of_isMember fun segment =>
        Step.isMember_of_mem_openNamespace).append
          (membersDocumented_stepsOf ctx _ members hmembers _)
  | .detached c, _, created => by
      apply membersDocumented_of_isMember
      simp [Entry.steps, emit, Step.segments, Segment.isMember]
  | .unhandled e, _, created => by
      apply membersDocumented_of_isMember
      simp [Entry.steps, emit]

/-- All that the entries of a scope put into a namespace is documented. -/
theorem membersDocumented_stepsOf (ctx : Context) (scope : Option Text) :
    (entries : List Entry) → (∀ e, .unhandled e ∉ stepsOf scope entries) →
      (created : List Text) →
      MembersDocumented ctx.options (emit ctx created (stepsOf scope entries)).segments
  | [], _, created => by
      apply membersDocumented_of_isMember
      simp [stepsOf, emit]
  | entry :: rest, hhandled, created => by
      rw [stepsOf] at hhandled ⊢
      have hentry : ∀ e, .unhandled e ∉ entry.steps scope := fun e he =>
        hhandled e (List.mem_append_left _ he)
      have hrest : ∀ e, .unhandled e ∉ stepsOf scope rest := fun e he =>
        hhandled e (List.mem_append_right _ he)
      rw [emit_append ctx created _ _ ((emit_failure_eq_none_iff ctx created _).mpr hentry)]
      exact (entry.membersDocumented_emit ctx scope hentry created).append
        (membersDocumented_stepsOf ctx scope rest hrest _)
end

/-- What is true of the shapes of a namespace and of what is written for it. -/
structure MembersAgree (ctx : Context) (header : NamespaceHeader) (members : List DeclShape)
    (created : List Text) (e : Emission) : Prop where
  finished : e.failure = none
  text : e.text = .ok (Text.unlines (e.segments.map Segment.text))
  /-- The members are assigned in the order of the shapes, and nothing else is. -/
  assignments : e.segments.filter Segment.isMember =
    (membershipsOf header.qualified members).map Membership.segment
  spelled : (e.segments.filter Segment.isMember).map Segment.text =
    (membershipsOf header.qualified members).map Membership.assignment
  documented : MembersDocumented ctx.options e.segments
  /-- The containers are those of the namespaces in the shapes and of all above. -/
  containers : ∀ name, name ∈ e.created ↔
    name ∈ created ∨ ∃ full ∈ header.qualified :: qualifiedNamesOf members,
      IsDottedPrefix name full

/-- The shapes of a namespace can be collected when its kinds are known. -/
theorem exists_namespaceMembers {body : List Stmt}
    (hknown : ∀ stmt ∈ treeOf body, stmt.unknownKind? = none) (options : Options)
    (lines : List Text) (parent : Option Text) (head : NamespaceHead) :
    ∃ members, namespaceMembers options lines parent head body = .ok members := by
  have hfailure := failureOf_shapesOf options lines (some (qualify parent head.name))
    (some (qualify parent head.name)) (outline options body)
  have hnone : (stepsOf (some (qualify parent head.name)) (outline options body)).findSome?
      Step.unhandled? = none := by
    rw [List.findSome?_eq_none_iff]
    intro step hstep
    rw [Option.eq_none_iff_forall_ne_some]
    intro e he
    obtain rfl := Step.unhandled?_eq_some_iff.mp he
    exact unhandled_notMem_scopeSteps hknown options _ e hstep
  rw [hnone] at hfailure
  rw [namespaceMembers]
  rcases hmembers : shapesOf options lines (some (qualify parent head.name))
    (outline options body) with e | members
  · simp [hmembers, failureOf] at hfailure
  · exact ⟨members, rfl⟩

/-- A namespace with a name is written as its shapes say: with the same members
in the same order, and with the containers of the same namespaces. -/
theorem namespaceMembers_membersAgree (ctx : Context) (parent : Option Text)
    (head : NamespaceHead) (doc : Option Comment) (body : List Stmt) (hname : head.name ≠ [])
    (hknown : ∀ stmt ∈ treeOf body, stmt.unknownKind? = none) :
    ∃ members, namespaceMembers ctx.options ctx.lines parent head body = .ok members ∧
      ∀ created, MembersAgree ctx (.of parent head) members created
        (emit ctx created (namespaceSteps ctx.options parent ⟨head, doc⟩ body)) := by
  obtain ⟨members, hmembers⟩ :=
    exists_namespaceMembers hknown ctx.options ctx.lines parent head
  have hwalk := walkAlike_shapesOf (qualify_ne_nil_of_name parent hname)
    (outline ctx.options body) hmembers
  have hhandled : ∀ e, .unhandled e ∉
      namespaceSteps ctx.options parent ⟨head, doc⟩ body := by
    intro e he
    rw [namespaceSteps, Entry.steps] at he
    rcases List.mem_cons.mp he with heq | hmem
    · cases heq
    · exact unhandled_notMem_scopeSteps hknown ctx.options _ e hmem
  refine ⟨members, hmembers, fun created => ?_⟩
  have hfinished := (emit_failure_eq_none_iff ctx created _).mpr hhandled
  have hassignments : (emit ctx created (namespaceSteps ctx.options parent ⟨head, doc⟩
      body)).segments.filter Segment.isMember =
        (membershipsOf (qualify parent head.name) members).map Membership.segment := by
    rw [emit_segments_filter (fun step => step.segments_filter_isMember ctx) hhandled,
      ← List.map_flatMap]
    exact congrArg (List.map Membership.segment) hwalk.memberships
  refine ⟨hfinished, Emission.text_of_success hfinished, hassignments, ?_,
    Entry.membersDocumented_emit ctx parent _ hhandled created, ?_⟩
  · rw [hassignments, List.map_map]
    rfl
  · intro name
    have hnamespaces : (namespaceSteps ctx.options parent ⟨head, doc⟩ body).flatMap
        Step.namespaces = qualify parent head.name :: qualifiedNamesOf members :=
      congrArg (qualify parent head.name :: ·) hwalk.namespaces
    rw [mem_emit_created hhandled, hnamespaces]
    rfl

namespace MembershipsWitness

def fetch : Stmt := .callable { name := "fetch".toList, range := .ofLines 8 none }

def pool : Stmt :=
  .classDecl { name := "Pool".toList, range := .ofLines 3 (some 5) }
    [.callable { name := "size".toList, range := .ofLines 4 none, role := .method false }]

def retry : Stmt := .callable { name := "retry".toList, range := .ofLines 7 none }

/-- A dotted namespace whose declarations are not listed in their order, a
namespace among them and a comment that stands alone. -/
def body : List Stmt :=
  [fetch, .namespaceDecl ⟨"Server".toList, .ofLines 6 (some 7)⟩ [retry], pool,
    .comment ⟨.ofLines 9 none, "/** Kept. */".toList⟩]

def client : Documented NamespaceHead :=
  ⟨⟨"Http.Client".toList, .ofLines 2 (some 10)⟩, none⟩

def ctx : Context := { options := { keepDetached := true } }

def written (created : List Text) : Emission :=
  emit ctx created (namespaceSteps ctx.options (some "Net".toList) client body)

end MembershipsWitness

theorem namespaceMembers_membersAgree_client :
    (∃ members,
      namespaceMembers { keepDetached := true } [] (some "Net".toList)
          MembershipsWitness.client.decl MembershipsWitness.body = .ok members ∧
        ∀ created, MembersAgree MembershipsWitness.ctx
          (.of (some "Net".toList) MembershipsWitness.client.decl) members created
          (MembershipsWitness.written created)) ∧
      (MembershipsWitness.written []).segments.filter Segment.isMember =
        [.member "Net.Http.Client".toList "Pool".toList,
          .member "Net.Http.Client.Server".toList "retry".toList,
          .member "Net.Http.Client".toList "fetch".toList] :=
  ⟨namespaceMembers_membersAgree MembershipsWitness.ctx (some "Net".toList)
      MembershipsWitness.client.decl none MembershipsWitness.body (by decide) (by decide),
    by decide +kernel⟩

end DocWeave
