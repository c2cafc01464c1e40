/-
Documentation does not change the code.  A statement tree is laid bare by
taking away its comments and everything else that only documentation shows:
types, defaults, visibility, overriding, annotations, fields.  Two trees that
are the same when laid bare are written as the same code, wherever their
comments stand and whatever they say.
-/
import DocWeave.Proofs.Emission.CodeText
import DocWeave.Proofs.Emission.Run
import DocWeave.Proofs.Shape.Dotted
import Mathlib.Data.List.Basic

namespace DocWeave

def Param.bare (p : Param) : Param := { name := p.name }

/-- A role without the word on overriding. -/
def CallableRole.bare : CallableRole → CallableRole
  | .function => .function
  | .method _ => .method false

/-- A callable with its name, its place, its role and the names of its parameters. -/
def Callable.bare (c : Callable) : Callable :=
  { name := c.name, range := c.range, params := c.params.map Param.bare, role := c.role.bare }

/-- A class with its name, its place and its parent. -/
def ClassHead.bare (head : ClassHead) : ClassHead :=
  { name := head.name, range := head.range, parent := head.parent }

mutual
/-- A declaration laid bare.  Statements that declare nothing to be written are
gone; one of an unknown kind stays. -/
def Stmt.bare? : Stmt → Option Stmt
  | .callable c => some (.callable c.bare)
  | .classDecl head body => some (.classDecl head.bare (bareOf body))
  | .namespaceDecl head body => some (.namespaceDecl head (bareOf body))
  | .unknown kind range => some (.unknown kind range)
  | _ => none

/-- The declarations of a list laid bare, in their order. -/
def bareOf : List Stmt → List Stmt
  | [] => []
  | stmt :: rest => stmt.bare?.toList ++ bareOf rest
end

/-- The names a declaration is written with. -/
def Stmt.names : Stmt → List Text
  | .callable c => c.name :: c.params.map Param.name
  | .classDecl head _ => head.name :: head.parent.toList
  | .namespaceDecl head _ => [head.name]
  | _ => []

/-- A step without what only documentation shows. -/
def Step.bare : Step → Step
  | .callable home c => .callable home ⟨c.decl.bare, none⟩
  | .classStart scope c => .classStart scope ⟨⟨c.head.decl.bare, none⟩, [], []⟩
  | .openNamespace qualified _ => .openNamespace qualified none
  | step => step

/-- The bare steps of an entry, in every scope it may stand in. -/
def Entry.bareSteps (entry : Entry) (scope : Option Text) : List Step :=
  (entry.steps scope).map Step.bare

theorem bareOf_eq_filterMap (stmts : List Stmt) : bareOf stmts = stmts.filterMap Stmt.bare? := by
  induction stmts with
  | nil => rfl
  | cons stmt rest ih =>
      rw [bareOf, ih, List.filterMap_cons]
      cases stmt.bare? <;> rfl

theorem firstUnhandled?_bareOf (stmts : List Stmt) :
    firstUnhandled? (bareOf stmts) = firstUnhandled? stmts := by
  have hkind : ∀ stmt : Stmt, stmt.bare?.bind Stmt.unknownKind? = stmt.unknownKind? := by
    intro stmt
    cases stmt <;> rfl
  rw [firstUnhandled?, firstUnhandled?, bareOf_eq_filterMap, ← List.head?_filterMap,
    ← List.head?_filterMap, List.filterMap_filterMap, funext hkind]

theorem Stmt.method?_bare (stmt : Stmt) :
    stmt.bare?.bind Stmt.method? = stmt.method?.map Callable.bare := by
  cases stmt with
  | callable c =>
      obtain ⟨name, range, params, returns, annots, access, role⟩ := c
      cases role <;> rfl
  | _ => rfl

theorem filterMap_method?_bareOf (body : List Stmt) :
    (bareOf body).filterMap Stmt.method? = (body.filterMap Stmt.method?).map Callable.bare := by
  rw [bareOf_eq_filterMap, List.filterMap_filterMap, List.map_filterMap,
    funext Stmt.method?_bare]

theorem Callable.bare_bare (c : Callable) : c.bare.bare = c.bare := by
  obtain ⟨name, range, params, returns, annots, access, role⟩ := c
  cases role <;> simp [Callable.bare, CallableRole.bare, Param.bare]

theorem ClassEntry.steps_bare (scope : Option Text) {head head' : Documented ClassHead}
    (hhead : head'.decl = head.decl.bare) (body : List Stmt) :
    ((ClassEntry.of head body).steps scope).map Step.bare =
      ((ClassEntry.of head' (bareOf body)).steps scope).map Step.bare := by
  simp [ClassEntry.steps, ClassEntry.of, filterMap_method?_bareOf, Step.bare, hhead,
    Callable.bare_bare, ClassHead.bare]

theorem classEntry_bareSteps {head head' : Documented ClassHead}
    (hhead : head'.decl = head.decl.bare) (body : List Stmt) :
    (classEntry head body).bareSteps = (classEntry head' (bareOf body)).bareSteps := by
  funext scope
  unfold classEntry
  rw [firstUnhandled?_bareOf]
  cases firstUnhandled? body with
  | some e => rfl
  | none => exact ClassEntry.steps_bare scope hhead body

theorem stepsOf_map_bare (scope : Option Text) (entries : List Entry) :
    (stepsOf scope entries).map Step.bare =
      (entries.map Entry.bareSteps).flatMap (· scope) := by
  rw [stepsOf_eq_flatMap, List.map_flatMap, List.flatMap_map]
  rfl

/-- What a statement and its bare form come to is the same: nothing, or the same
bare steps at the same place. -/
def SameBare (options : Options) (stmt : Stmt) : Prop :=
  ∀ comments comments',
    (stmt.entry? options comments).map (Placed.map Entry.bareSteps) =
      (stmt.bare?.bind (Stmt.entry? options comments')).map (Placed.map Entry.bareSteps)

/-- Entries with the same bare steps on the same places keep them when they are put in
order. -/
theorem outline_map_bareSteps {options : Options} (hdetached : options.keepDetached = false)
    {stmts : List Stmt} (hstmts : ∀ stmt ∈ stmts, SameBare options stmt) :
    (outline options stmts).map Entry.bareSteps =
      (outline options (bareOf stmts)).map Entry.bareSteps := by
  have hnone : ∀ list, detachedEntries options list = [] := by
    intro list
    simp [detachedEntries, hdetached]
  have hplaced :
      (stmts.filterMap (Stmt.entry? options (commentsOf stmts))).map
          (Placed.map Entry.bareSteps) =
        ((bareOf stmts).filterMap (Stmt.entry? options (commentsOf (bareOf stmts)))).map
          (Placed.map Entry.bareSteps) := by
    generalize commentsOf stmts = comments
    generalize commentsOf (bareOf stmts) = comments'
    rw [bareOf_eq_filterMap, List.filterMap_filterMap, List.map_filterMap, List.map_filterMap]
    apply List.filterMap_congr
    intro stmt hstmt
    exact hstmts stmt hstmt comments comments'
  have hitem : (fun placed : Placed Entry => Entry.bareSteps placed.item) =
      (fun placed => placed.item) ∘ Placed.map Entry.bareSteps := rfl
  cases hunhandled : firstUnhandled? stmts with
  | some e =>
      rw [outline_of_unhandled hunhandled,
        outline_of_unhandled ((firstUnhandled?_bareOf stmts).trans hunhandled)]
  | none =>
      rw [outline_of_handled hunhandled,
        outline_of_handled ((firstUnhandled?_bareOf stmts).trans hunhandled), hnone, hnone,
        List.append_nil, List.append_nil, List.map_map, List.map_map]
      change List.map (fun placed : Placed Entry => Entry.bareSteps placed.item) _ =
        List.map (fun placed : Placed Entry => Entry.bareSteps placed.item) _
      rw [hitem, ← List.map_map, ← List.map_map, ← sortPlaced_map, ← sortPlaced_map, hplaced]

theorem sameBare {options : Options} (hdetached : options.keepDetached = false)
    (stmt : Stmt) : SameBare options stmt := by
  induction stmt using Stmt.treeInduction with
  | callable c =>
      intro comments comments'
      simp only [Stmt.entry?, Stmt.bare?, Option.bind_some, Option.map_some, Placed.map]
      congr 2
      funext scope
      simp [Entry.bareSteps, Entry.steps, Step.bare, Callable.bare_bare]
  | classDecl head body _ =>
      intro comments comments'
      simp only [Stmt.entry?, Stmt.bare?, Option.bind_some, Option.map_some, Placed.map]
      congr 2
      exact classEntry_bareSteps rfl body
  | namespaceDecl head body ih =>
      intro comments comments'
      simp only [Stmt.entry?_namespaceDecl, Stmt.bare?, Option.bind_some, Option.map_some,
        Placed.map]
      congr 2
      funext scope
      have hbody := congrArg (List.flatMap (· (some (qualify scope head.name))))
        (outline_map_bareSteps hdetached ih)
      rw [← stepsOf_map_bare, ← stepsOf_map_bare] at hbody
      simp [Entry.bareSteps, Entry.steps, Step.bare, hbody]
  | _ =>
      intro comments comments'
      rfl

theorem scopeSteps_map_bare {options : Options} (hdetached : options.keepDetached = false)
    (scope : Option Text) (stmts : List Stmt) :
    (scopeSteps options scope stmts).map Step.bare =
      (scopeSteps options scope (bareOf stmts)).map Step.bare := by
  rw [scopeSteps, scopeSteps, stepsOf_map_bare, stepsOf_map_bare,
    outline_map_bareSteps hdetached fun stmt _ => sameBare hdetached stmt]

theorem map_name_bare (params : List Param) :
    (params.map Param.bare).map Param.name = params.map Param.name := by
  rw [List.map_map]
  rfl

theorem Callable.stub_bare (options : Options) (c : Callable) :
    c.bare.stub options = c.stub options := by
  obtain ⟨name, range, params, returns, annots, access, role⟩ := c
  unfold Callable.stub Callable.bare
  rw [map_name_bare]
  cases role <;> rfl

theorem Home.membership_snd (moduleName moduleName' : Option Text) (home : Home) :
    (home.membership moduleName).2 = (home.membership moduleName').2 := by
  cases home <;> rfl

/-- The code of a step depends on the options and on its bare form alone. -/
theorem Step.segments_map_code (ctx : Context) (created : List Text) (step : Step) :
    (step.segments ctx created).map Segment.code =
      (step.bare.segments { options := ctx.options } created).map Segment.code := by
  cases step with
  | callable home c =>
      simp only [Step.segments, Step.bare, List.map_append, List.map_cons, Segment.code,
        Callable.stub_bare, Home.membership_snd ctx.moduleName none]
      rfl
  | classStart scope c => rfl
  | openNamespace qualified doc =>
      simp [Step.segments, Step.bare, Context.containerSegments, List.map_flatMap,
        Segment.code]
  | _ => rfl

theorem emit_map_code (ctx : Context) (created : List Text) (steps : List Step) :
    (emit ctx created steps).segments.map Segment.code =
      (emit { options := ctx.options } created (steps.map Step.bare)).segments.map
        Segment.code := by
  induction steps generalizing created with
  | nil => rfl
  | cons step rest ih =>
      have hopened : step.bare.opened created = step.opened created := by
        cases step <;> rfl
      rcases step.handled_or_unhandled with ⟨e, rfl⟩ | hstep
      · rfl
      · have hbare : ∀ e, step.bare ≠ .unhandled e := by
          intro e
          cases step with
          | unhandled e' => exact absurd rfl (hstep e')
          | _ => exact nofun
        rw [List.map_cons, emit_cons ctx created hstep, emit_cons _ created hbare]
        rw [List.map_append, List.map_append, Step.segments_map_code, hopened, ih]

theorem mem_intercalate {separator : Text} {parts : List Text} {c : Char}
    (h : c ∈ separator.intercalate parts) : c ∈ separator ∨ ∃ part ∈ parts, c ∈ part := by
  induction parts with
  | nil => cases h
  | cons part rest ih =>
      cases rest with
      | nil =>
          rw [List.intercalate_singleton] at h
          exact Or.inr ⟨part, List.mem_cons_self, h⟩
      | cons next rest =>
          rw [List.intercalate_cons_cons, List.append_assoc] at h
          rcases List.mem_append.mp h with hpart | h
          · exact Or.inr ⟨part, List.mem_cons_self, hpart⟩
          · rcases List.mem_append.mp h with hseparator | hrest
            · exact Or.inl hseparator
            · rcases ih hrest with hseparator | ⟨other, hother, hc⟩
              · exact Or.inl hseparator
              · exact Or.inr ⟨other, List.mem_cons_of_mem part hother, hc⟩

theorem mem_of_mem_strip {t : Text} {c : Char} (h : c ∈ t.strip) : c ∈ t := by
  rw [Text.strip, Text.trimEnd, Text.dropEndWhile, List.mem_reverse] at h
  have htrimmed := List.mem_reverse.mp (List.dropWhile_subset _ h)
  exact List.dropWhile_subset _ htrimmed

def Step.names : Step → List Text
  | .callable (.scope scope) c => scope.toList ++ (Stmt.callable c.decl).names
  | .callable .classBody c => (Stmt.callable c.decl).names
  | .classStart _ c => c.head.decl.name :: c.head.decl.parent.toList
  | .classEnd scope name => scope.toList ++ [name]
  | .openNamespace qualified _ => [qualified]
  | _ => []

theorem slash_notMem_stubText {name : Text} {params : List Text} (hname : '/' ∉ name)
    (hparams : ∀ param ∈ params, '/' ∉ param) : '/' ∉ stubText name params := by
  have hlist : '/' ∉ ", ".toList.intercalate params := by
    intro h
    rcases mem_intercalate h with hseparator | ⟨param, hparam, hslash⟩
    · revert hseparator
      decide
    · exact hparams param hparam hslash
  simp only [stubText, List.mem_append, List.mem_cons, not_or]
  exact ⟨⟨hname, by decide, hlist⟩, by decide⟩

theorem slash_notMem_stub {options : Options} (hspelling : '/' ∉ options.constructorSpelling)
    {c : Callable} (hnames : ∀ name ∈ (Stmt.callable c).names, '/' ∉ name) :
    '/' ∉ (c.stub options).code := by
  have hname : '/' ∉ c.name := hnames c.name List.mem_cons_self
  have hparams : ∀ param ∈ c.params.map Param.name, '/' ∉ param := fun param hparam =>
    hnames param (List.mem_cons_of_mem c.name hparam)
  unfold Callable.stub
  cases c.role with
  | function =>
      have hstub := slash_notMem_stubText hname hparams
      rw [Segment.code_function, List.mem_append, not_or]
      exact ⟨by decide, hstub⟩
  | method overrides =>
      rw [Segment.code_method]
      apply slash_notMem_stubText _ hparams
      split
      · exact hspelling
      · exact hname

theorem slash_notMem_memberSegments {scope : Option Text}
    (hscope : ∀ outer ∈ scope, '/' ∉ outer) {name : Text} (hname : '/' ∉ name) :
    ∀ segment ∈ memberSegments scope name, '/' ∉ segment.code := by
  intro segment hsegment
  simp only [memberSegments, Option.mem_toList, Option.map_eq_some_iff] at hsegment
  obtain ⟨outer, houter, rfl⟩ := hsegment
  have hslash := hscope outer (eq_of_bind_given? houter).1
  simp only [Segment.code_member, List.mem_append, List.mem_cons, not_or]
  exact ⟨⟨⟨⟨hslash, by decide, hname⟩, by decide⟩, hname⟩, by decide⟩

theorem slash_notMem_container {name : Text} (hname : '/' ∉ name) :
    '/' ∉ (Segment.container name).code := by
  simp only [Segment.code_container, List.mem_append, not_or]
  refine ⟨⟨?_, hname⟩, by decide⟩
  split <;> decide

theorem slash_notMem_classStart {name : Text} (hname : '/' ∉ name) {parent : Option Text}
    (hparent : ∀ text ∈ parent, '/' ∉ text) :
    '/' ∉ (Segment.classStart name parent).code := by
  cases parent with
  | none =>
      simp only [Segment.code_classStart_none, List.mem_append, not_or]
      exact ⟨⟨by decide, hname⟩, by decide⟩
  | some text =>
      simp only [Segment.code_classStart_some, List.mem_append, not_or]
      exact ⟨⟨⟨⟨by decide, hname⟩, by decide⟩, hparent text rfl⟩, by decide⟩

/-- Steps whose names have no slash are written as code without a slash. -/
theorem slash_notMem_step_code {ctx : Context}
    (hspelling : '/' ∉ ctx.options.constructorSpelling) {step : Step}
    (hnames : ∀ name ∈ step.names, '/' ∉ name) (created : List Text) :
    ∀ segment ∈ step.segments ctx created, '/' ∉ segment.code := by
  intro segment hsegment
  cases step with
  | callable home c =>
      have hown : ∀ name ∈ (Stmt.callable c.decl).names, '/' ∉ name := by
        intro name hname
        cases home with
        | scope scope => exact hnames name (List.mem_append_right _ hname)
        | classBody => exact hnames name hname
      have hscope : ∀ outer ∈ (home.membership ctx.moduleName).2, '/' ∉ outer := by
        intro outer houter
        cases home with
        | scope scope => exact hnames outer (List.mem_append_left _ (Option.mem_toList.mpr houter))
        | classBody => cases houter
      simp only [Step.segments, List.mem_append, List.mem_cons, List.not_mem_nil,
        or_false] at hsegment
      rcases hsegment with (rfl | rfl) | hmember
      · exact List.not_mem_nil
      · exact slash_notMem_stub hspelling hown
      · exact slash_notMem_memberSegments hscope (hown c.decl.name List.mem_cons_self)
          segment hmember
  | classStart scope c =>
      simp only [Step.segments, List.mem_cons, List.not_mem_nil, or_false] at hsegment
      rcases hsegment with rfl | rfl
      · exact List.not_mem_nil
      · apply slash_notMem_classStart (hnames c.head.decl.name List.mem_cons_self)
        intro text htext hslash
        obtain ⟨parent, hparent, hgiven⟩ := Option.bind_eq_some_iff.mp htext
        obtain ⟨rfl, -⟩ := (Text.given?_eq_some_iff _ text).mp hgiven
        refine hnames parent (List.mem_cons_of_mem _ ?_) (mem_of_mem_strip hslash)
        simpa using hparent
  | classEnd scope name =>
      simp only [Step.segments, List.mem_cons] at hsegment
      rcases hsegment with rfl | hmember
      · decide
      · refine slash_notMem_memberSegments ?_ (hnames name (by simp [Step.names])) segment
          hmember
        intro outer houter
        exact hnames outer (List.mem_append_left _ (by simpa using houter))
  | openNamespace qualified doc =>
      have hqualified : '/' ∉ qualified := hnames qualified List.mem_cons_self
      simp only [Step.segments, List.mem_flatMap, Context.containerSegments, List.mem_cons,
        List.not_mem_nil, or_false] at hsegment
      obtain ⟨start, hstart, rfl | rfl⟩ := hsegment
      · exact List.not_mem_nil
      · apply slash_notMem_container
        intro hslash
        have hstarts := (mem_dottedStarts.mp (List.mem_filter.mp hstart).1).isPrefix
        exact hqualified (hstarts.subset hslash)
  | detached c =>
      obtain rfl := List.mem_singleton.mp hsegment
      exact List.not_mem_nil
  | unhandled e => cases hsegment

theorem slash_notMem_qualify {scope : Option Text} (hscope : ∀ outer ∈ scope, '/' ∉ outer)
    {name : Text} (hname : '/' ∉ name) : '/' ∉ qualify scope name := by
  unfold qualify
  split
  · rename_i outer houter
    have hslash := hscope outer (eq_of_bind_given? houter).1
    simp only [List.mem_append, List.mem_cons, not_or]
    exact ⟨hslash, by decide, hname⟩
  · exact hname

/-- No slash comes into the names of a step but from the tree or the scope. -/
theorem slash_notMem_names_of_arisesIn {scope : Option Text} {stmts : List Stmt} {step : Step}
    (h : ArisesIn scope stmts step) (hscope : ∀ outer ∈ scope, '/' ∉ outer)
    (hnames : ∀ stmt ∈ treeOf stmts, ∀ name ∈ stmt.names, '/' ∉ name) :
    ∀ name ∈ step.names, '/' ∉ name := by
  induction h with
  | callable doc hmem =>
      intro name hname
      rcases List.mem_append.mp hname with houter | hown
      · exact hscope name (Option.mem_toList.mp houter)
      · exact hnames _ (mem_treeOf_self hmem) name hown
  | classStart doc hmem =>
      intro name hname
      exact hnames _ (mem_treeOf_self hmem) name hname
  | method doc hmem hmethod =>
      intro name hname
      exact hnames _ (mem_treeOf_classDecl hmem (mem_treeOf_self hmethod)) name hname
  | classEnd hmem =>
      intro name hname
      rcases List.mem_append.mp hname with houter | hown
      · exact hscope name (Option.mem_toList.mp houter)
      · obtain rfl := List.mem_singleton.mp hown
        exact hnames _ (mem_treeOf_self hmem) _ List.mem_cons_self
  | openNamespace doc hmem =>
      intro name hname
      obtain rfl := List.mem_singleton.mp hname
      exact slash_notMem_qualify hscope
        (hnames _ (mem_treeOf_self hmem) _ List.mem_cons_self)
  | inside hmem _ ih =>
      apply ih
      · intro outer houter
        obtain rfl := Option.some.inj houter
        exact slash_notMem_qualify hscope
          (hnames _ (mem_treeOf_self hmem) _ List.mem_cons_self)
      · intro stmt hstmt
        exact hnames stmt (mem_treeOf_namespaceDecl hmem hstmt)
  | _ =>
      intro name hname
      cases hname

/-- A tree that is written to its end, without its blocks, is the code of its
segments. -/
theorem exists_text_withoutDocs (ctx : Context) {stmts : List Stmt} {scope : Option Text}
    (hspelling : '/' ∉ ctx.options.constructorSpelling)
    (hscope : ∀ outer ∈ scope, '/' ∉ outer)
    (hknown : ∀ stmt ∈ treeOf stmts, stmt.unknownKind? = none)
    (hnames : ∀ stmt ∈ treeOf stmts, ∀ name ∈ stmt.names, '/' ∉ name)
    (created : List Text) :
    ∃ text, (emitScope ctx created scope stmts).text = .ok text ∧
      withoutDocs text =
        Text.unlines ((emitScope ctx created scope stmts).segments.map Segment.code) := by
  have hfailure := emitScope_failure_eq_none hknown ctx created scope
  refine ⟨_, Emission.text_of_success hfailure, ?_⟩
  apply withoutDocs_segmentsText
  intro segment hsegment
  obtain ⟨step, hstep, before, hwritten⟩ := exists_step_of_mem_emit hsegment
  exact slash_notMem_step_code hspelling
    (slash_notMem_names_of_arisesIn (arisesIn_of_mem_scopeSteps hstep) hscope hnames)
    before segment hwritten

theorem emitScope_map_code (ctx : Context) (hdetached : ctx.options.keepDetached = false)
    (created : List Text) (scope : Option Text) (stmts : List Stmt) :
    (emitScope ctx created scope stmts).segments.map Segment.code =
      (emitScope { options := ctx.options } created scope (bareOf stmts)).segments.map
        Segment.code := by
  have hcode := emit_map_code ctx created (scopeSteps ctx.options scope stmts)
  have hbare := emit_map_code { options := ctx.options } created
    (scopeSteps ctx.options scope (bareOf stmts))
  rw [scopeSteps_map_bare hdetached scope stmts] at hcode
  exact hcode.trans hbare.symm

/-- Two trees that are the same when laid bare are both written, and what is
written is the same code, however their documentation differs. -/
theorem emitScope_withoutDocs_eq (ctx ctx' : Context) (created : List Text)
    (scope : Option Text) (stmts stmts' : List Stmt)
    (hoptions : ctx.options = ctx'.options)
    (hdetached : ctx.options.keepDetached = false)
    (hspelling : '/' ∉ ctx.options.constructorSpelling)
    (hscope : ∀ outer ∈ scope, '/' ∉ outer)
    (hbare : bareOf stmts = bareOf stmts')
    (hknown : ∀ stmt ∈ treeOf stmts ++ treeOf stmts', stmt.unknownKind? = none)
    (hnames : ∀ stmt ∈ treeOf stmts ++ treeOf stmts', ∀ name ∈ stmt.names, '/' ∉ name) :
    ∃ text text', (emitScope ctx created scope stmts).text = .ok text ∧
      (emitScope ctx' created scope stmts').text = .ok text' ∧
      withoutDocs text = withoutDocs text' := by
  obtain ⟨text, htext, hcode⟩ := exists_text_withoutDocs ctx hspelling hscope
    (fun stmt hstmt => hknown stmt (List.mem_append_left _ hstmt))
    (fun stmt hstmt => hnames stmt (List.mem_append_left _ hstmt)) created
  obtain ⟨text', htext', hcode'⟩ := exists_text_withoutDocs ctx' (hoptions ▸ hspelling) hscope
    (fun stmt hstmt => hknown stmt (List.mem_append_right _ hstmt))
    (fun stmt hstmt => hnames stmt (List.mem_append_right _ hstmt)) created
  have hbareCode := emitScope_map_code ctx hdetached created scope stmts
  have hbareCode' := emitScope_map_code ctx' (hoptions ▸ hdetached) created scope stmts'
  refine ⟨text, text', htext, htext', ?_⟩
  rw [hcode, hcode', hbareCode, hbareCode', hbare, hoptions]

namespace BareCodeWitness

/-- A method in a class in a namespace.  Its comment tries to close its block
and to open another one behind it. -/
def documented : List Stmt :=
  [.comment ⟨.ofLines 1 none, "' Talks to servers.".toList⟩,
    .namespaceDecl ⟨"Net.Http".toList, .ofLines 2 (some 9)⟩
      [.classDecl
        { name := "Client".toList, range := .ofLines 3 (some 8),
          parent := some " Base ".toList }
        [.field { name := "a/b".toList, range := .ofLines 4 none },
          .comment ⟨.ofLines 5 none, "' */ class Evil \x7b \x7d /** @param \x7b*/\x7d url".toList⟩,
          .callable
            { name := "New".toList, range := .ofLines 6 (some 7),
              params := [{ name := "url".toList, type := .plain "string".toList }],
              access := some .privateAccess, role := .method true }]]]

/-- The same declarations without a word about them. -/
def silent : List Stmt :=
  [.other (.ofLines 1 none) "import".toList,
    .namespaceDecl ⟨"Net.Http".toList, .ofLines 2 (some 9)⟩
      [.classDecl
        { name := "Client".toList, range := .ofLines 3 (some 8),
          parent := some " Base ".toList }
        [.callable
          { name := "New".toList, range := .ofLines 6 (some 7),
            params := [{ name := "url".toList }], role := .method false }]]]

end BareCodeWitness

theorem emitScope_withoutDocs_eq_silent :
    ∃ text text',
      (emitScope { moduleName := some "net*/".toList } [] none
        BareCodeWitness.documented).text = .ok text ∧
      (emitScope {} [] none BareCodeWitness.silent).text = .ok text' ∧
      withoutDocs text = withoutDocs text' :=
  emitScope_withoutDocs_eq { moduleName := some "net*/".toList } {} [] none
    BareCodeWitness.documented BareCodeWitness.silent rfl rfl (by decide) (by decide) rfl
    (by decide) (by decide)

end DocWeave
