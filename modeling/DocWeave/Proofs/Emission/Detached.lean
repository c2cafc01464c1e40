/-
Comments that stand alone.  Keeping them adds their blocks to what is written
and changes nothing else.  The blocks that are added belong to the doc comments
that no declaration of their scope has, one to each.  Two comments that read
the same are told apart by their sites.
-/
import DocWeave.Proofs.Emission.SourceOrder
import DocWeave.Proofs.Outline.Selection
import DocWeave.Proofs.Reconcile.Entries
import Mathlib.Data.List.Perm.Basic

namespace DocWeave

/-- Where a comment stands, seen from a scope: among the comments of the scope
itself, or inside the namespace at some position of it. -/
inductive Site
  | here (index : Nat)
  | inside (position : Nat) (site : Site)
  deriving DecidableEq, Repr

/-- A doc comment at some site of a scope that is the comment of no declaration
next to it.  Sites lead through namespaces only, never into the body of a class. -/
inductive StandsAlone (options : Options) : List Stmt → Site → Comment → Prop
  | here {stmts : List Stmt} {index : Nat} {c : Comment}
      (hc : (commentsOf stmts)[index]? = some c) (hdoc : c.isDocBlock options = true)
      (hfree : ∀ stmt ∈ stmts, ∀ anchor ∈ stmt.declAnchor?,
        findDocIndex (commentsOf stmts) anchor ≠ some index) :
      StandsAlone options stmts (.here index) c
  | inside {stmts body : List Stmt} {position : Nat} {head : NamespaceHead} {site : Site}
      {c : Comment} (hbody : stmts[position]? = some (.namespaceDecl head body))
      (halone : StandsAlone options body site c) :
      StandsAlone options stmts (.inside position site) c

/-- The comments that stand alone among the statements of a scope. -/
def aloneHere (options : Options) (stmts : List Stmt) : List (Site × Comment) :=
  ((commentsOf stmts).zipIdx.filter fun c =>
    !(claimedComments stmts).contains c.2 && c.1.isDocBlock options).map fun c =>
      (.here c.2, c.1)

mutual
/-- The comments that stand alone inside a statement. -/
def Stmt.aloneInside (options : Options) : Stmt → List (Site × Comment)
  | .namespaceDecl _ body => aloneHere options body ++ aloneInsideFrom options 0 body
  | _ => []

/-- Those inside the statements of a list, the first of which has a position. -/
def aloneInsideFrom (options : Options) (position : Nat) : List Stmt → List (Site × Comment)
  | [] => []
  | stmt :: rest =>
      (stmt.aloneInside options).map (fun owner => (.inside position owner.1, owner.2)) ++
        aloneInsideFrom options (position + 1) rest
end

/-- All comments of a scope and of its namespaces that stand alone. -/
def aloneOf (options : Options) (stmts : List Stmt) : List (Site × Comment) :=
  aloneHere options stmts ++ aloneInsideFrom options 0 stmts

theorem mem_claimedComments {stmts : List Stmt} {index : Nat} :
    index ∈ claimedComments stmts ↔ ∃ stmt ∈ stmts, ∃ anchor ∈ stmt.declAnchor?,
      findDocIndex (commentsOf stmts) anchor = some index := by
  simp only [claimedComments, List.mem_filterMap]
  constructor
  · rintro ⟨anchor, ⟨stmt, hstmt, hanchor⟩, hindex⟩
    exact ⟨stmt, hstmt, anchor, hanchor, hindex⟩
  · rintro ⟨stmt, hstmt, anchor, hanchor, hindex⟩
    exact ⟨anchor, ⟨stmt, hstmt, hanchor⟩, hindex⟩

theorem mem_aloneHere {options : Options} {stmts : List Stmt} {owner : Site × Comment} :
    owner ∈ aloneHere options stmts ↔ ∃ index, owner.1 = .here index ∧
      (commentsOf stmts)[index]? = some owner.2 ∧ owner.2.isDocBlock options = true ∧
        index ∉ claimedComments stmts := by
  simp only [aloneHere, List.mem_map, List.mem_filter, List.mem_zipIdx_iff_getElem?,
    Bool.and_eq_true, Bool.not_eq_true', List.contains_eq_mem, decide_eq_false_iff_not]
  constructor
  · rintro ⟨⟨c, index⟩, ⟨hc, hfree, hdoc⟩, rfl⟩
    exact ⟨index, rfl, hc, hdoc, hfree⟩
  · rintro ⟨index, hsite, hc, hdoc, hfree⟩
    exact ⟨(owner.2, index), ⟨hc, hfree, hdoc⟩, Prod.ext hsite.symm rfl⟩

theorem mem_aloneInsideFrom {options : Options} {start : Nat} {stmts : List Stmt}
    {owner : Site × Comment} :
    owner ∈ aloneInsideFrom options start stmts ↔ ∃ position stmt site,
      stmts[position]? = some stmt ∧ owner.1 = .inside (start + position) site ∧
        (site, owner.2) ∈ stmt.aloneInside options := by
  induction stmts generalizing start with
  | nil => simp [aloneInsideFrom]
  | cons first rest ih =>
      rw [aloneInsideFrom, List.mem_append, List.mem_map, ih]
      constructor
      · rintro (⟨inner, hinner, rfl⟩ | ⟨position, stmt, site, hstmt, hsite, hinner⟩)
        · exact ⟨0, first, inner.1, rfl, rfl, hinner⟩
        · refine ⟨position + 1, stmt, site, hstmt, ?_, hinner⟩
          rw [hsite, Nat.add_assoc, Nat.add_comm 1 position]
      · rintro ⟨position, stmt, site, hstmt, hsite, hinner⟩
        match position with
        | 0 =>
            obtain rfl := Option.some.inj hstmt
            exact Or.inl ⟨(site, owner.2), hinner, Prod.ext hsite.symm rfl⟩
        | position + 1 =>
            refine Or.inr ⟨position, stmt, site, hstmt, ?_, hinner⟩
            rw [hsite, Nat.add_assoc, Nat.add_comm 1 position]

theorem mem_aloneInside {options : Options} {stmt : Stmt} {owner : Site × Comment} :
    owner ∈ stmt.aloneInside options ↔
      ∃ head body, stmt = .namespaceDecl head body ∧ owner ∈ aloneOf options body := by
  match stmt with
  | .namespaceDecl head body =>
      rw [Stmt.aloneInside, ← aloneOf]
      simp
  | .comment _ | .callable _ | .field _ | .classDecl _ _ | .other _ _ | .unknown _ _ =>
      simp [Stmt.aloneInside]

/-- The comments listed are those that stand alone. -/
theorem mem_aloneOf {options : Options} {stmts : List Stmt} {site : Site} {c : Comment} :
    (site, c) ∈ aloneOf options stmts ↔ StandsAlone options stmts site c := by
  induction site generalizing stmts with
  | here index =>
      rw [aloneOf, List.mem_append, mem_aloneHere, mem_aloneInsideFrom]
      constructor
      · rintro (⟨other, hsite, hc, hdoc, hfree⟩ | ⟨position, stmt, site, -, hsite, -⟩)
        · obtain rfl := Site.here.inj hsite
          refine .here hc hdoc fun stmt hstmt anchor hanchor hindex => hfree ?_
          exact mem_claimedComments.mpr ⟨stmt, hstmt, anchor, hanchor, hindex⟩
        · cases hsite
      · rintro ⟨hc, hdoc, hfree⟩
        refine Or.inl ⟨index, rfl, hc, hdoc, fun hclaimed => ?_⟩
        obtain ⟨stmt, hstmt, anchor, hanchor, hindex⟩ := mem_claimedComments.mp hclaimed
        exact hfree stmt hstmt anchor hanchor hindex
  | inside position site ih =>
      rw [aloneOf, List.mem_append, mem_aloneHere, mem_aloneInsideFrom]
      constructor
      · rintro (⟨index, hsite, -⟩ | ⟨other, stmt, inner, hstmt, hsite, hinner⟩)
        · cases hsite
        · obtain ⟨rfl, rfl⟩ := Site.inside.inj hsite
          obtain ⟨head, body, rfl, hbody⟩ := mem_aloneInside.mp hinner
          rw [Nat.zero_add]
          exact .inside hstmt (ih.mp hbody)
      · rintro (_ | ⟨hbody, halone⟩)
        refine Or.inr ⟨position, _, site, hbody, by rw [Nat.zero_add], ?_⟩
        exact mem_aloneInside.mpr ⟨_, _, rfl, ih.mpr halone⟩

theorem aloneHere_nodup (options : Options) (stmts : List Stmt) :
    ((aloneHere options stmts).map Prod.fst).Nodup := by
  have hindices : ((commentsOf stmts).zipIdx.map Prod.snd).Nodup := by
    rw [List.zipIdx_map_snd]
    exact List.nodup_range'
  have hsites := hindices.map (f := Site.here) fun _ _ h => Site.here.inj h
  rw [List.map_map] at hsites
  rw [aloneHere, List.map_map]
  exact hsites.sublist (List.filter_sublist.map _)

/-- Sites in later statements lead through later positions. -/
theorem aloneInsideFrom_nodup {options : Options} {start : Nat} {stmts : List Stmt}
    (hstmts : ∀ stmt ∈ stmts, ((stmt.aloneInside options).map Prod.fst).Nodup) :
    ((aloneInsideFrom options start stmts).map Prod.fst).Nodup := by
  induction stmts generalizing start with
  | nil => simp [aloneInsideFrom]
  | cons first rest ih =>
      have hfirst := (hstmts first List.mem_cons_self).map
        (f := Site.inside start) fun _ _ h => (Site.inside.inj h).2
      have hrest : ((aloneInsideFrom options (start + 1) rest).map Prod.fst).Nodup :=
        ih fun stmt hstmt => hstmts stmt (List.mem_cons_of_mem first hstmt)
      rw [List.map_map] at hfirst
      rw [aloneInsideFrom, List.map_append, List.map_map]
      refine List.nodup_append.mpr ⟨hfirst, hrest, ?_⟩
      rintro site hsite other hother rfl
      obtain ⟨inner, -, rfl⟩ := List.mem_map.mp hsite
      obtain ⟨owner, howner, heq⟩ := List.mem_map.mp hother
      obtain ⟨position, stmt, deeper, -, hposition, -⟩ := mem_aloneInsideFrom.mp howner
      have hsame := (Site.inside.inj (hposition.symm.trans heq)).1
      omega

theorem aloneOf_nodup_of_inside {options : Options} {stmts : List Stmt}
    (hstmts : ∀ stmt ∈ stmts, ((stmt.aloneInside options).map Prod.fst).Nodup) :
    ((aloneOf options stmts).map Prod.fst).Nodup := by
  rw [aloneOf, List.map_append]
  refine List.nodup_append.mpr ⟨aloneHere_nodup options stmts, aloneInsideFrom_nodup hstmts, ?_⟩
  rintro site hsite other hother rfl
  obtain ⟨owner, howner, rfl⟩ := List.mem_map.mp hsite
  obtain ⟨inner, hinner, heq⟩ := List.mem_map.mp hother
  obtain ⟨index, hindex, -⟩ := mem_aloneHere.mp howner
  obtain ⟨position, stmt, deeper, -, hposition, -⟩ := mem_aloneInsideFrom.mp hinner
  rw [hindex, hposition] at heq
  cases heq

/-- No two of the comments listed stand at the same site. -/
theorem aloneOf_nodup (options : Options) (stmts : List Stmt) :
    ((aloneOf options stmts).map Prod.fst).Nodup := by
  have hinside : ∀ stmt : Stmt, ((stmt.aloneInside options).map Prod.fst).Nodup := by
    intro stmt
    induction stmt using Stmt.treeInduction with
    | namespaceDecl head body ih =>
        rw [Stmt.aloneInside, ← aloneOf]
        exact aloneOf_nodup_of_inside ih
    | _ => simp [Stmt.aloneInside]
  exact aloneOf_nodup_of_inside fun stmt _ => hinside stmt

theorem detachedComments_eq_aloneHere (options : Options) (stmts : List Stmt) :
    detachedComments options stmts = (aloneHere options stmts).map Prod.snd := by
  rw [aloneHere, List.map_map]
  rfl

/-- The comments that the steps of a statement write on their own, in a scope
with some comments. -/
def Stmt.detachedIn (options : Options) (comments : List Comment) (scope : Option Text)
    (stmt : Stmt) : List Comment :=
  (stmt.entry? options comments).toList.flatMap fun x =>
    (x.item.steps scope).filterMap Step.detached?

theorem flatMap_detachedIn_perm {options : Options} {comments : List Comment}
    {scope : Option Text} {stmts : List Stmt}
    (hstmts : ∀ stmt ∈ stmts, (stmt.detachedIn options comments scope).Perm
      ((stmt.aloneInside options).map Prod.snd)) (start : Nat) :
    (stmts.flatMap (Stmt.detachedIn options comments scope)).Perm
      ((aloneInsideFrom options start stmts).map Prod.snd) := by
  induction stmts generalizing start with
  | nil => simp [aloneInsideFrom]
  | cons first rest ih =>
      have hfirst := hstmts first List.mem_cons_self
      have hrest := ih (fun stmt hstmt => hstmts stmt (List.mem_cons_of_mem first hstmt))
        (start + 1)
      rw [List.flatMap_cons, aloneInsideFrom, List.map_append, List.map_map]
      exact hfirst.append hrest

theorem scopeSteps_detached_perm_of_inside {options : Options}
    (hkeep : options.keepDetached = true) {stmts : List Stmt}
    (hhandled : firstUnhandled? stmts = none) {scope : Option Text}
    (hstmts : ∀ stmt ∈ stmts, (stmt.detachedIn options (commentsOf stmts) scope).Perm
      ((stmt.aloneInside options).map Prod.snd)) :
    ((scopeSteps options scope stmts).filterMap Step.detached?).Perm
      ((aloneOf options stmts).map Prod.snd) := by
  let read := fun x : Placed Entry => (x.item.steps scope).filterMap Step.detached?
  have hdeclared : (stmts.filterMap (Stmt.entry? options (commentsOf stmts))).flatMap read =
      stmts.flatMap (Stmt.detachedIn options (commentsOf stmts) scope) := by
    rw [List.filterMap_eq_flatMap_toList, List.flatMap_assoc]
    rfl
  have hdetached : (detachedEntries options stmts).flatMap read =
      (aloneHere options stmts).map Prod.snd := by
    rw [← detachedComments_eq_aloneHere, detachedEntries, if_pos hkeep, List.flatMap_map]
    exact List.flatMap_singleton' _
  have hsteps : (scopeSteps options scope stmts).filterMap Step.detached? =
      (sortPlaced (stmts.filterMap (Stmt.entry? options (commentsOf stmts)) ++
        detachedEntries options stmts)).flatMap read := by
    rw [scopeSteps, outline_of_handled hhandled, stepsOf_eq_flatMap, List.flatMap_map,
      List.filterMap_flatMap]
  rw [hsteps, aloneOf, List.map_append]
  refine ((sortPlaced_perm _).flatMap_right read).trans ?_
  rw [List.flatMap_append, hdeclared, hdetached]
  exact ((flatMap_detachedIn_perm hstmts 0).append_right _).trans List.perm_append_comm

/-- A statement writes the comments that stand alone inside it.  A class writes none of
those in its body. -/
theorem Stmt.detachedIn_perm {options : Options} (hkeep : options.keepDetached = true)
    (stmt : Stmt) (hknown : ∀ inner ∈ stmt.tree, inner.unknownKind? = none) :
    ∀ comments scope, (stmt.detachedIn options comments scope).Perm
      ((stmt.aloneInside options).map Prod.snd) := by
  induction stmt using Stmt.treeInduction with
  | classDecl head body _ =>
      intro comments scope
      have hattached := congrFun
        (classEntry_attachedSteps ⟨head, findDoc comments head.anchor⟩ body) scope
      rw [Entry.attachedSteps, List.filter_eq_self] at hattached
      have hnone : (Stmt.classDecl head body).detachedIn options comments scope = [] := by
        simp only [Stmt.detachedIn, Stmt.entry?, Option.toList_some, List.flatMap_singleton]
        rw [List.filterMap_eq_nil_iff]
        intro step hstep
        exact Option.isNone_iff_eq_none.mp (hattached step hstep)
      rw [hnone]
      simp [Stmt.aloneInside]
  | namespaceDecl head body ih =>
      intro comments scope
      have hbody : ∀ stmt ∈ treeOf body, stmt.unknownKind? = none := fun stmt hstmt =>
        hknown stmt (by rw [Stmt.tree]; exact List.mem_cons_of_mem _ hstmt)
      have hsteps := scopeSteps_detached_perm_of_inside hkeep
        (firstUnhandled?_eq_none_of_known hbody) fun stmt hstmt =>
          ih stmt hstmt (fun inner hinner => hbody inner (mem_treeOf_of_mem hstmt hinner))
            (commentsOf body) (some (qualify scope head.name))
      simp only [Stmt.detachedIn, Stmt.entry?_namespaceDecl, Option.toList_some,
        List.flatMap_singleton, Entry.steps, List.filterMap_cons, Step.detached?,
        Stmt.aloneInside]
      exact hsteps
  | _ =>
      intro comments scope
      simp [Stmt.detachedIn, Stmt.entry?, Entry.steps, Step.detached?, Stmt.aloneInside]

/-- The comments that a scope writes on their own are those that stand alone. -/
theorem scopeSteps_detached_perm {options : Options} (hkeep : options.keepDetached = true)
    {stmts : List Stmt} (hknown : ∀ stmt ∈ treeOf stmts, stmt.unknownKind? = none)
    (scope : Option Text) :
    ((scopeSteps options scope stmts).filterMap Step.detached?).Perm
      ((aloneOf options stmts).map Prod.snd) := by
  apply scopeSteps_detached_perm_of_inside hkeep (firstUnhandled?_eq_none_of_known hknown)
  intro stmt hstmt
  exact stmt.detachedIn_perm hkeep (fun inner hinner =>
    hknown inner (mem_treeOf_of_mem hstmt hinner)) (commentsOf stmts) scope

def Segment.isDetached : Segment → Bool
  | .detached _ => true
  | _ => false

/-- The same context, with or without the comments that stand alone. -/
def Context.keeping (ctx : Context) (keep : Bool) : Context :=
  { ctx with options := { ctx.options with keepDetached := keep } }

/-- Only the step of a comment that stands alone writes such a block. -/
theorem Step.segments_isDetached {step : Step} (hstep : step.isAttached = true)
    {ctx : Context} {created : List Text} {segment : Segment}
    (h : segment ∈ step.segments ctx created) : segment.isDetached = false := by
  rcases Step.block_of_mem_segments h with hnone | ⟨entries, rfl⟩ | ⟨c, rfl, -⟩
  · match segment with
    | .detached b => cases hnone
    | .block _ | .function _ _ | .method _ _ | .classStart _ _ | .classEnd | .container _
    | .member _ _ => rfl
  · rfl
  · cases hstep

theorem Step.exists_of_not_isAttached {step : Step} (h : ¬ step.isAttached = true) :
    ∃ c, step = .detached c := by
  match step with
  | .detached c => exact ⟨c, rfl⟩
  | .callable _ _ | .classStart _ _ | .classEnd _ _ | .openNamespace _ _ | .unhandled _ =>
      exact absurd rfl h

/-- The step of a comment that stands alone adds its block to the run. -/
theorem emit_detached_cons (ctx : Context) (created : List Text) (c : Comment)
    (rest : List Step) :
    emit ctx created (.detached c :: rest) =
      { emit ctx created rest with
        segments := .detached (documentDetached ctx.options c) ::
          (emit ctx created rest).segments } := by
  simp [emit, Step.opened, Step.segments, Step.diagnostics]

/-- A run without the comments that stand alone is the run with them, less their
blocks. -/
theorem emit_filter_isAttached (ctx : Context) (created : List Text) (steps : List Step) :
    emit ctx created (steps.filter Step.isAttached) =
      { emit ctx created steps with
        segments := (emit ctx created steps).segments.filter fun s => !s.isDetached } := by
  induction steps generalizing created with
  | nil => rfl
  | cons step rest ih =>
      by_cases hattached : step.isAttached = true
      · have hsegments : (step.segments ctx created).filter (fun s => !s.isDetached) =
            step.segments ctx created := by
          rw [List.filter_eq_self]
          intro segment hsegment
          simp [Step.segments_isDetached hattached hsegment]
        rw [List.filter_cons_of_pos hattached]
        rcases step.handled_or_unhandled with ⟨e, rfl⟩ | hhandled
        · rfl
        · simp only [emit_cons ctx created hhandled, ih, List.filter_append, hsegments]
      · obtain ⟨c, rfl⟩ := Step.exists_of_not_isAttached hattached
        rw [List.filter_cons_of_neg hattached, emit_detached_cons, ih]
        rfl

theorem Step.segments_filter_isDetached (ctx : Context) (step : Step) (created : List Text) :
    (step.segments ctx created).filter Segment.isDetached =
      step.detached?.toList.map fun c => .detached (documentDetached ctx.options c) := by
  by_cases hattached : step.isAttached = true
  · rw [Option.isNone_iff_eq_none.mp hattached, List.filter_eq_nil_iff.mpr]
    · rfl
    · intro segment hsegment
      simp [Step.segments_isDetached hattached hsegment]
  · obtain ⟨c, rfl⟩ := Step.exists_of_not_isAttached hattached
    rfl

/-- The blocks of a run that stand alone are those of the comments its steps
write on their own, in their order. -/
theorem emit_filter_isDetached {steps : List Step} (hhandled : ∀ e, .unhandled e ∉ steps)
    (ctx : Context) (created : List Text) :
    (emit ctx created steps).segments.filter Segment.isDetached =
      (steps.filterMap Step.detached?).map fun c =>
        .detached (documentDetached ctx.options c) := by
  rw [emit_segments_filter (Step.segments_filter_isDetached ctx) hhandled,
    List.filterMap_eq_flatMap_toList, List.map_flatMap]

theorem Step.segments_keeping (ctx : Context) (keep : Bool) (created : List Text)
    (step : Step) : step.segments (ctx.keeping keep) created = step.segments ctx created := by
  match step with
  | .callable _ _ | .classStart _ _ | .classEnd _ _ | .openNamespace _ _ | .detached _
  | .unhandled _ => rfl

theorem Step.diagnostics_keeping (ctx : Context) (keep : Bool) (step : Step) :
    step.diagnostics (ctx.keeping keep) = step.diagnostics ctx := by
  match step with
  | .callable _ _ | .classStart _ _ | .classEnd _ _ | .openNamespace _ _ | .detached _
  | .unhandled _ => rfl

/-- What is kept decides which steps there are, and not how a step is written. -/
theorem emit_keeping (ctx : Context) (keep : Bool) (created : List Text) (steps : List Step) :
    emit (ctx.keeping keep) created steps = emit ctx created steps := by
  induction steps generalizing created with
  | nil => rfl
  | cons step rest ih =>
      rcases step.handled_or_unhandled with ⟨e, rfl⟩ | hhandled
      · rfl
      · simp only [emit_cons _ created hhandled, ih, Step.segments_keeping,
          Step.diagnostics_keeping]

theorem emitScope_keeping (ctx : Context) (keep : Bool) (created : List Text)
    (scope : Option Text) (stmts : List Stmt) :
    emitScope (ctx.keeping keep) created scope stmts =
      emit ctx created (scopeSteps (ctx.keeping keep).options scope stmts) :=
  emit_keeping ctx keep created _

theorem documentDetached_lines (options : Options) (c : Comment) :
    (documentDetached options c).lines = bodyOf options c.text :=
  DocBlock.lines_ofEntries_map .text _

/-- What is true of an emission that keeps the comments that stand alone,
compared with one that does not. -/
structure AddsDetachedBlocks (options : Options) (stmts : List Stmt) (plain kept : Emission) :
    Prop where
  created : kept.created = plain.created
  diagnostics : kept.diagnostics = plain.diagnostics
  kept_text : kept.text = .ok (Text.unlines (kept.segments.map Segment.text))
  /-- Without the blocks that are added, the texts are the same. -/
  plain_text : plain.text = .ok (Text.unlines
    ((kept.segments.filter fun segment => !segment.isDetached).map Segment.text))
  /-- Each of these blocks belongs to a comment that stands alone and is printed with
  the lines of its body, and each of these comments has one. -/
  blocks : ∃ owners : List (Site × Comment),
    (owners.map Prod.fst).Nodup ∧
    (∀ site c, (site, c) ∈ owners ↔ StandsAlone options stmts site c) ∧
    kept.segments.filter Segment.isDetached =
      owners.map (fun owner => .detached (documentDetached options owner.2)) ∧
    ∀ owner ∈ owners, (documentDetached options owner.2).lines = bodyOf options owner.2.text ∧
      (Segment.detached (documentDetached options owner.2)).text =
        (documentDetached options owner.2).render

/-- Keeping the comments that stand alone adds their blocks and nothing else. -/
theorem emitScope_addsDetachedBlocks (ctx : Context) (created : List Text)
    (scope : Option Text) (stmts : List Stmt)
    (hknown : ∀ stmt ∈ treeOf stmts, stmt.unknownKind? = none) :
    AddsDetachedBlocks (ctx.keeping true).options stmts
      (emitScope (ctx.keeping false) created scope stmts)
      (emitScope (ctx.keeping true) created scope stmts) := by
  have hplain : emitScope (ctx.keeping false) created scope stmts =
      { emitScope (ctx.keeping true) created scope stmts with
        segments := (emitScope (ctx.keeping true) created scope stmts).segments.filter
          fun segment => !segment.isDetached } := by
    have hoff : (ctx.keeping false).options.keepDetached = false := rfl
    rw [emitScope_keeping, emitScope_keeping, ← emit_filter_isAttached,
      scopeSteps_filter_isAttached _ hoff]
  have hsuccess : (emitScope (ctx.keeping true) created scope stmts).failure = none :=
    emitScope_failure_eq_none hknown (ctx.keeping true) created scope
  have hperm : ((scopeSteps (ctx.keeping true).options scope stmts).filterMap Step.detached?).Perm
      ((aloneOf (ctx.keeping true).options stmts).map Prod.snd) :=
    scopeSteps_detached_perm rfl hknown scope
  obtain ⟨owners, howners, hlisted⟩ :=
    (congrFun₂ (List.eq_map_comp_perm Prod.snd) _ _).mpr hperm
  rw [hplain]
  refine ⟨rfl, rfl, Emission.text_of_success hsuccess, Emission.text_of_success hsuccess, owners,
    ?_, ?_, ?_, ?_⟩
  · exact (hlisted.map Prod.fst).nodup_iff.mpr (aloneOf_nodup _ stmts)
  · intro site c
    rw [hlisted.mem_iff, mem_aloneOf]
  · rw [emitScope, emit_filter_isDetached (unhandled_notMem_scopeSteps hknown _ scope), howners,
      List.map_map]
    rfl
  · intro owner _
    exact ⟨documentDetached_lines _ owner.2, rfl⟩

namespace DetachedWitness

/-- A doc comment; the file has it twice. -/
def greeting : Stmt := .comment ⟨.ofLines 1 none, "/** Says hello. */".toList⟩

def hello : Stmt := .callable { name := "hello".toList, range := .ofLines 2 none }

def client : Stmt :=
  .classDecl { name := "Client".toList, range := .ofLines 5 (some 8) }
    [.comment ⟨.ofLines 6 none, "/** Unused. */".toList⟩]

/-- A file whose first comment is that of its function and whose second is not,
though it reads the same and stands on the same line.  A namespace has a doc
comment of its own that starts where its class does, and a plain one. -/
def stmts : List Stmt :=
  [greeting, greeting, hello,
    .namespaceDecl ⟨"Net".toList, .ofLines 4 (some 9)⟩
      [.comment ⟨⟨⟨5, 0⟩, ⟨7, 0⟩⟩, "/** Kept. */".toList⟩, client,
        .comment ⟨.ofLines 8 none, "' Plain.".toList⟩]]

end DetachedWitness

theorem emitScope_addsDetachedBlocks_greeting :
    AddsDetachedBlocks { keepDetached := true } DetachedWitness.stmts
        (emitScope {} [] none DetachedWitness.stmts)
        (emitScope { options := { keepDetached := true } } [] none DetachedWitness.stmts) ∧
      ((emitScope { options := { keepDetached := true } } [] none
          DetachedWitness.stmts).segments.filter Segment.isDetached).length = 2 :=
  ⟨emitScope_addsDetachedBlocks {} [] none DetachedWitness.stmts (by decide),
    by decide +kernel⟩

end DocWeave
