/-
Statements and the steps they give, as trees.  A statement tree is gone through
by an induction that knows the claim for every statement of a body, and what a
scope writes is gathered from what its statements write, whatever their order.
-/
import DocWeave.Step

namespace DocWeave

/-- Induction over statement trees: a class or a namespace has the claim for
every statement of its body. -/
@[elab_as_elim]
theorem Stmt.treeInduction {motive : Stmt → Prop}
    (comment : ∀ c, motive (.comment c))
    (callable : ∀ c, motive (.callable c))
    (field : ∀ f, motive (.field f))
    (classDecl : ∀ head body, (∀ stmt ∈ body, motive stmt) → motive (.classDecl head body))
    (namespaceDecl : ∀ head body, (∀ stmt ∈ body, motive stmt) →
      motive (.namespaceDecl head body))
    (other : ∀ range text, motive (.other range text))
    (unknown : ∀ kind range, motive (.unknown kind range)) :
    ∀ stmt, motive stmt
  | .comment c => comment c
  | .callable c => callable c
  | .field f => field f
  | .classDecl head body => classDecl head body fun stmt _ =>
      treeInduction comment callable field classDecl namespaceDecl other unknown stmt
  | .namespaceDecl head body => namespaceDecl head body fun stmt _ =>
      treeInduction comment callable field classDecl namespaceDecl other unknown stmt
  | .other range text => other range text
  | .unknown kind range => unknown kind range

mutual
/-- A statement and all statements inside it. -/
def Stmt.tree : Stmt → List Stmt
  | .classDecl head body => .classDecl head body :: treeOf body
  | .namespaceDecl head body => .namespaceDecl head body :: treeOf body
  | stmt => [stmt]

/-- All statements of a list, with those inside them. -/
def treeOf : List Stmt → List Stmt
  | [] => []
  | stmt :: rest => stmt.tree ++ treeOf rest
end

theorem treeOf_eq_flatMap (stmts : List Stmt) : treeOf stmts = stmts.flatMap Stmt.tree := by
  induction stmts with
  | nil => rfl
  | cons stmt rest ih => rw [treeOf, ih, List.flatMap_cons]

theorem Stmt.self_mem_tree (stmt : Stmt) : stmt ∈ stmt.tree := by
  cases stmt <;> simp [Stmt.tree]

theorem mem_treeOf_of_mem {stmts : List Stmt} {stmt inner : Stmt} (hstmt : stmt ∈ stmts)
    (hinner : inner ∈ stmt.tree) : inner ∈ treeOf stmts := by
  rw [treeOf_eq_flatMap]
  exact List.mem_flatMap.mpr ⟨stmt, hstmt, hinner⟩

theorem entriesOf_eq_filterMap (options : Options) (comments : List Comment)
    (stmts : List Stmt) :
    entriesOf options comments stmts = stmts.filterMap (Stmt.entry? options comments) := by
  induction stmts with
  | nil => rfl
  | cons stmt rest ih =>
      rw [entriesOf, ih, List.filterMap_cons]
      cases stmt.entry? options comments <;> rfl

theorem stepsOf_eq_flatMap (scope : Option Text) (entries : List Entry) :
    stepsOf scope entries = entries.flatMap (Entry.steps scope) := by
  induction entries with
  | nil => rfl
  | cons entry rest ih => rw [stepsOf, ih, List.flatMap_cons]

theorem Stmt.entry?_namespaceDecl (options : Options) (comments : List Comment)
    (head : NamespaceHead) (body : List Stmt) :
    Stmt.entry? options comments (.namespaceDecl head body) =
      some ⟨head.place,
        .namespaceDecl ⟨head, findDoc comments head.anchor⟩ (outline options body)⟩ := by
  rw [Stmt.entry?, outline]

theorem outline_of_unhandled {stmts : List Stmt} {e : UnhandledKind}
    (h : firstUnhandled? stmts = some e) (options : Options) :
    outline options stmts = [.unhandled e] := by
  rw [outline, arrange, h]

theorem outline_of_handled {stmts : List Stmt} (h : firstUnhandled? stmts = none)
    (options : Options) :
    outline options stmts =
      (sortPlaced (stmts.filterMap (Stmt.entry? options (commentsOf stmts)) ++
        detachedEntries options stmts)).map (·.item) := by
  rw [outline, arrange, h, entriesOf_eq_filterMap]

def Placed.map {α β : Type} (f : α → β) (x : Placed α) : Placed β :=
  ⟨x.place, f x.item⟩

theorem insertPlaced_map_of_order {α β : Type} {f : Placed α → Placed β}
    (hf : ∀ x y, (f x).place.notAfter (f y).place = x.place.notAfter y.place)
    (x : Placed α) (xs : List (Placed α)) :
    insertPlaced (f x) (xs.map f) = (insertPlaced x xs).map f := by
  induction xs with
  | nil => rfl
  | cons y rest ih =>
      by_cases h : x.place.notAfter y.place = true
      · simp [insertPlaced, hf, h]
      · simp [insertPlaced, hf, h, ih]

/-- What keeps the order of places can be done before sorting or after it. -/
theorem sortPlaced_map_of_order {α β : Type} {f : Placed α → Placed β}
    (hf : ∀ x y, (f x).place.notAfter (f y).place = x.place.notAfter y.place)
    (xs : List (Placed α)) : sortPlaced (xs.map f) = (sortPlaced xs).map f := by
  induction xs with
  | nil => rfl
  | cons x rest ih =>
      change insertPlaced (f x) (sortPlaced (rest.map f)) = _
      rw [ih, insertPlaced_map_of_order hf]
      rfl

/-- The order of a scope looks at places only. -/
theorem sortPlaced_map {α β : Type} (f : α → β) (xs : List (Placed α)) :
    sortPlaced (xs.map (Placed.map f)) = (sortPlaced xs).map (Placed.map f) := by
  have horder : ∀ x y : Placed α, (x.map f).place.notAfter (y.map f).place =
      x.place.notAfter y.place := fun _ _ => rfl
  exact sortPlaced_map_of_order horder xs

theorem mem_sortPlaced {α : Type} {x : Placed α} {xs : List (Placed α)} :
    x ∈ sortPlaced xs ↔ x ∈ xs :=
  (sortPlaced_perm xs).mem_iff

/-- The steps of a scope that can be handled are those of its statements and of
the comments that stand alone. -/
theorem mem_scopeSteps {stmts : List Stmt} (h : firstUnhandled? stmts = none)
    {options : Options} {scope : Option Text} {step : Step} :
    step ∈ scopeSteps options scope stmts ↔
      (∃ stmt ∈ stmts, ∃ placed, stmt.entry? options (commentsOf stmts) = some placed ∧
        step ∈ placed.item.steps scope) ∨
      ∃ placed ∈ detachedEntries options stmts, step ∈ placed.item.steps scope := by
  simp only [scopeSteps, outline_of_handled h, stepsOf_eq_flatMap, List.mem_flatMap,
    List.mem_map, mem_sortPlaced, List.mem_append, List.mem_filterMap]
  constructor
  · rintro ⟨entry, ⟨placed, ⟨stmt, hstmt, hentry⟩ | hdetached, rfl⟩, hstep⟩
    · exact Or.inl ⟨stmt, hstmt, placed, hentry, hstep⟩
    · exact Or.inr ⟨placed, hdetached, hstep⟩
  · rintro (⟨stmt, hstmt, placed, hentry, hstep⟩ | ⟨placed, hdetached, hstep⟩)
    · exact ⟨placed.item, ⟨placed, Or.inl ⟨stmt, hstmt, hentry⟩, rfl⟩, hstep⟩
    · exact ⟨placed.item, ⟨placed, Or.inr hdetached, rfl⟩, hstep⟩

theorem scopeSteps_of_unhandled {stmts : List Stmt} {e : UnhandledKind}
    (h : firstUnhandled? stmts = some e) (options : Options) (scope : Option Text) :
    scopeSteps options scope stmts = [.unhandled e] := by
  rw [scopeSteps, outline_of_unhandled h]
  rfl

theorem detachedEntries_item {options : Options} {stmts : List Stmt} {placed : Placed Entry}
    (h : placed ∈ detachedEntries options stmts) : ∃ c, placed.item = .detached c := by
  unfold detachedEntries at h
  split at h
  · obtain ⟨c, -, rfl⟩ := List.mem_map.mp h
    exact ⟨c, rfl⟩
  · cases h

/-- How a step comes up in a scope with some statements: from a declaration of
that scope, from a method of a class there, from inside a namespace there, or
because something cannot be handled. -/
inductive ArisesIn : Option Text → List Stmt → Step → Prop
  | callable {scope stmts c} (doc) (hmem : Stmt.callable c ∈ stmts) :
      ArisesIn scope stmts (.callable (.scope scope) ⟨c, doc⟩)
  | classStart {scope stmts head body} (doc) (hmem : Stmt.classDecl head body ∈ stmts) :
      ArisesIn scope stmts (.classStart scope (.of ⟨head, doc⟩ body))
  | method {scope stmts head body c} (doc) (hmem : Stmt.classDecl head body ∈ stmts)
      (hmethod : Stmt.callable c ∈ body) :
      ArisesIn scope stmts (.callable .classBody ⟨c, doc⟩)
  | classEnd {scope stmts head body} (hmem : Stmt.classDecl head body ∈ stmts) :
      ArisesIn scope stmts (.classEnd scope head.name)
  | openNamespace {scope stmts head body} (doc) (hmem : Stmt.namespaceDecl head body ∈ stmts) :
      ArisesIn scope stmts (.openNamespace (qualify scope head.name) doc)
  | inside {scope stmts head body step} (hmem : Stmt.namespaceDecl head body ∈ stmts)
      (hstep : ArisesIn (some (qualify scope head.name)) body step) :
      ArisesIn scope stmts step
  | detached {scope stmts} (c) : ArisesIn scope stmts (.detached c)
  | unhandled {scope stmts e} (hunhandled : firstUnhandled? stmts = some e) :
      ArisesIn scope stmts (.unhandled e)
  | unhandledClass {scope stmts head body e} (hmem : Stmt.classDecl head body ∈ stmts)
      (hunhandled : firstUnhandled? body = some e) : ArisesIn scope stmts (.unhandled e)

theorem mem_of_mem_filterMap_method? {body : List Stmt} {c : Callable}
    (h : c ∈ body.filterMap Stmt.method?) : Stmt.callable c ∈ body := by
  obtain ⟨stmt, hstmt, hmethod⟩ := List.mem_filterMap.mp h
  cases stmt with
  | callable c' =>
      by_cases hc : c'.isMethod = true
      · simp only [Stmt.method?, hc, if_true, Option.some.injEq] at hmethod
        exact hmethod ▸ hstmt
      · simp [Stmt.method?, hc] at hmethod
  | _ => cases hmethod

/-- The steps of a class: its start, its methods, its end. -/
theorem ClassEntry.mem_steps {scope : Option Text} {c : ClassEntry} {step : Step} :
    step ∈ c.steps scope ↔ step = .classStart scope c ∨
      (∃ method ∈ c.methods, .callable .classBody method = step) ∨
      step = .classEnd scope c.head.decl.name := by
  simp [ClassEntry.steps]

theorem arisesIn_of_mem_class_steps {scope : Option Text} {stmts : List Stmt}
    {head : ClassHead} {body : List Stmt} (hmem : Stmt.classDecl head body ∈ stmts)
    {doc : Option Comment} {step : Step}
    (hstep : step ∈ (classEntry ⟨head, doc⟩ body).steps scope) :
    ArisesIn scope stmts step := by
  cases hunhandled : firstUnhandled? body with
  | some e =>
      rw [classEntry, hunhandled] at hstep
      obtain rfl := List.mem_singleton.mp hstep
      exact .unhandledClass hmem hunhandled
  | none =>
      rw [classEntry, hunhandled, Entry.steps] at hstep
      rcases ClassEntry.mem_steps.mp hstep with rfl | ⟨method, hmethod, rfl⟩ | rfl
      · exact .classStart doc hmem
      · obtain ⟨c, hc, rfl⟩ := List.mem_map.mp hmethod
        exact .method _ hmem (mem_of_mem_filterMap_method? hc)
      · exact .classEnd hmem

theorem arisesIn_of_mem_scopeSteps_of_entries {options : Options} {scope : Option Text}
    {stmts : List Stmt}
    (hentries : ∀ stmt ∈ stmts, ∀ comments placed, stmt.entry? options comments = some placed →
      ∀ step ∈ placed.item.steps scope, ArisesIn scope stmts step) :
    ∀ step ∈ scopeSteps options scope stmts, ArisesIn scope stmts step := by
  intro step hstep
  cases hunhandled : firstUnhandled? stmts with
  | some e =>
      rw [scopeSteps_of_unhandled hunhandled] at hstep
      obtain rfl := List.mem_singleton.mp hstep
      exact .unhandled hunhandled
  | none =>
      rcases (mem_scopeSteps hunhandled).mp hstep with
        ⟨stmt, hstmt, placed, hentry, hplaced⟩ | ⟨placed, hdetached, hplaced⟩
      · exact hentries stmt hstmt _ placed hentry step hplaced
      · obtain ⟨c, hc⟩ := detachedEntries_item hdetached
        rw [hc] at hplaced
        obtain rfl := List.mem_singleton.mp hplaced
        exact .detached c

theorem arisesIn_of_mem_entry_steps (options : Options) (stmt : Stmt) :
    ∀ scope stmts, stmt ∈ stmts → ∀ comments placed,
      stmt.entry? options comments = some placed →
        ∀ step ∈ placed.item.steps scope, ArisesIn scope stmts step := by
  induction stmt using Stmt.treeInduction with
  | callable c =>
      intro scope stmts hmem comments placed hentry step hstep
      obtain rfl := Option.some.inj hentry
      obtain rfl := List.mem_singleton.mp hstep
      exact .callable _ hmem
  | classDecl head body _ =>
      intro scope stmts hmem comments placed hentry step hstep
      obtain rfl := Option.some.inj hentry
      exact arisesIn_of_mem_class_steps hmem hstep
  | namespaceDecl head body ih =>
      intro scope stmts hmem comments placed hentry step hstep
      rw [Stmt.entry?_namespaceDecl] at hentry
      obtain rfl := Option.some.inj hentry
      rw [Entry.steps] at hstep
      rcases List.mem_cons.mp hstep with rfl | hinner
      · exact .openNamespace _ hmem
      · refine .inside hmem (arisesIn_of_mem_scopeSteps_of_entries ?_ step hinner)
        intro stmt hstmt
        exact ih stmt hstmt (some (qualify scope head.name)) body hstmt
  | _ =>
      intro _ _ _ comments placed hentry
      cases hentry

/-- Every step of a scope arises from its statements. -/
theorem arisesIn_of_mem_scopeSteps {options : Options} {scope : Option Text}
    {stmts : List Stmt} {step : Step} (hstep : step ∈ scopeSteps options scope stmts) :
    ArisesIn scope stmts step := by
  refine arisesIn_of_mem_scopeSteps_of_entries ?_ step hstep
  intro stmt hstmt
  exact arisesIn_of_mem_entry_steps options stmt scope stmts hstmt

theorem mem_treeOf_classDecl {stmts body : List Stmt} {head : ClassHead}
    (hmem : Stmt.classDecl head body ∈ stmts) {inner : Stmt} (hinner : inner ∈ treeOf body) :
    inner ∈ treeOf stmts := by
  apply mem_treeOf_of_mem hmem
  rw [Stmt.tree]
  exact List.mem_cons_of_mem _ hinner

theorem mem_treeOf_namespaceDecl {stmts body : List Stmt} {head : NamespaceHead}
    (hmem : Stmt.namespaceDecl head body ∈ stmts) {inner : Stmt}
    (hinner : inner ∈ treeOf body) : inner ∈ treeOf stmts := by
  apply mem_treeOf_of_mem hmem
  rw [Stmt.tree]
  exact List.mem_cons_of_mem _ hinner

theorem mem_treeOf_self {stmts : List Stmt} {stmt : Stmt} (hmem : stmt ∈ stmts) :
    stmt ∈ treeOf stmts :=
  mem_treeOf_of_mem hmem stmt.self_mem_tree

end DocWeave
