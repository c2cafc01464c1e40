/-
Statements further down in their file.  Shifting adds to every line number of a
statement tree and leaves all else as it is.  Comments stay with their
declarations and scopes keep their order, so that a shifted tree has the
outline, and the steps, of the tree it comes from, shifted.
-/
import DocWeave.Proofs.Outline.Trees
import Mathlib.Data.List.Basic

namespace DocWeave

section Shift

variable (k : Nat)

def Position.shift (p : Position) : Position := ⟨p.line + k, p.column⟩

def SourceRange.shift (range : SourceRange) : SourceRange :=
  ⟨range.start.shift k, range.stop.shift k⟩

def Annot.shift (a : Annot) : Annot := { a with range := a.range.shift k }

def Comment.shift (c : Comment) : Comment := { c with range := c.range.shift k }

/-- A parameter further down; its default is cut out of the source there. -/
def Param.shift (p : Param) : Param :=
  { p with
    default := p.default.map (SourceRange.shift k)
    range := p.range.map (SourceRange.shift k) }

def Callable.shift (c : Callable) : Callable :=
  { c with
    range := c.range.shift k
    params := c.params.map (Param.shift k)
    annots := c.annots.map (Annot.shift k) }

def Field.shift (f : Field) : Field :=
  { f with range := f.range.shift k, annots := f.annots.map (Annot.shift k) }

def ClassHead.shift (head : ClassHead) : ClassHead :=
  { head with range := head.range.shift k, annots := head.annots.map (Annot.shift k) }

def NamespaceHead.shift (head : NamespaceHead) : NamespaceHead :=
  { head with range := head.range.shift k }

mutual
/-- A statement with all that is in it `k` lines further down. -/
def Stmt.shift : Stmt → Stmt
  | .comment c => .comment (c.shift k)
  | .callable c => .callable (c.shift k)
  | .field f => .field (f.shift k)
  | .classDecl head body => .classDecl (head.shift k) (shiftOf body)
  | .namespaceDecl head body => .namespaceDecl (head.shift k) (shiftOf body)
  | .other range text => .other (range.shift k) text
  | .unknown kind range => .unknown kind (range.shift k)

def shiftOf : List Stmt → List Stmt
  | [] => []
  | stmt :: rest => stmt.shift :: shiftOf rest
end

def Anchor.shift (anchor : Anchor) : Anchor := ⟨anchor.top + k, anchor.line + k⟩

def Place.shift (place : Place) : Place := ⟨place.start.shift k, place.rank⟩

def Documented.shift {α : Type} (move : α → α) (d : Documented α) : Documented α :=
  ⟨move d.decl, d.doc.map (Comment.shift k)⟩

def ClassEntry.shift (c : ClassEntry) : ClassEntry :=
  { head := c.head.shift k (ClassHead.shift k)
    fields := c.fields.map (Documented.shift k (Field.shift k))
    methods := c.methods.map (Documented.shift k (Callable.shift k)) }

mutual
def Entry.shift : Entry → Entry
  | .callable c => .callable (c.shift k (Callable.shift k))
  | .classDecl c => .classDecl (c.shift k)
  | .namespaceDecl head members =>
      .namespaceDecl (head.shift k (NamespaceHead.shift k)) (shiftEntries members)
  | .detached c => .detached (c.shift k)
  | .unhandled e => .unhandled e

def shiftEntries : List Entry → List Entry
  | [] => []
  | entry :: rest => entry.shift :: shiftEntries rest
end

def Placed.shift (x : Placed Entry) : Placed Entry := ⟨x.place.shift k, x.item.shift k⟩

def Step.shift : Step → Step
  | .callable home c => .callable home (c.shift k (Callable.shift k))
  | .classStart scope c => .classStart scope (c.shift k)
  | .classEnd scope name => .classEnd scope name
  | .openNamespace qualified doc => .openNamespace qualified (doc.map (Comment.shift k))
  | .detached c => .detached (c.shift k)
  | .unhandled e => .unhandled e

end Shift

variable {k : Nat}

theorem shiftOf_eq_map (stmts : List Stmt) : shiftOf k stmts = stmts.map (Stmt.shift k) := by
  induction stmts with
  | nil => rfl
  | cons stmt rest ih => rw [shiftOf, ih, List.map_cons]

theorem shiftEntries_eq_map (entries : List Entry) :
    shiftEntries k entries = entries.map (Entry.shift k) := by
  induction entries with
  | nil => rfl
  | cons entry rest ih => rw [shiftEntries, ih, List.map_cons]

theorem Position.shift_inj (a b : Position) : a.shift k = b.shift k ↔ a = b := by
  obtain ⟨line, column⟩ := a
  obtain ⟨line', column'⟩ := b
  simp only [Position.shift, Position.mk.injEq]
  omega

theorem Position.shift_lt_shift (a b : Position) : a.shift k < b.shift k ↔ a < b := by
  simp only [Position.lt_iff, Position.shift]
  omega

/-- Places keep their order. -/
theorem Place.notAfter_shift (a b : Place) : (a.shift k).notAfter (b.shift k) = a.notAfter b := by
  rw [Bool.eq_iff_iff, Place.notAfter_iff, Place.notAfter_iff]
  simp only [Place.shift, Position.shift_lt_shift, Position.shift_inj]

theorem sortPlaced_shift (xs : List (Placed Entry)) :
    sortPlaced (xs.map (Placed.shift k)) = (sortPlaced xs).map (Placed.shift k) := by
  have horder : ∀ x y : Placed Entry, (x.shift k).place.notAfter (y.shift k).place =
      x.place.notAfter y.place := fun x y => Place.notAfter_shift x.place y.place
  exact sortPlaced_map_of_order horder xs

theorem Anchor.of_shift (annots : List Annot) (range : SourceRange) :
    Anchor.of (annots.map (Annot.shift k)) (range.shift k) = (Anchor.of annots range).shift k := by
  cases annots <;> rfl

theorem Callable.anchor_shift (c : Callable) : (c.shift k).anchor = c.anchor.shift k :=
  Anchor.of_shift c.annots c.range

theorem Field.anchor_shift (f : Field) : (f.shift k).anchor = f.anchor.shift k :=
  Anchor.of_shift f.annots f.range

theorem ClassHead.anchor_shift (head : ClassHead) :
    (head.shift k).anchor = head.anchor.shift k :=
  Anchor.of_shift head.annots head.range

theorem NamespaceHead.anchor_shift (head : NamespaceHead) :
    (head.shift k).anchor = head.anchor.shift k := rfl

/-- A comment stays with its declaration. -/
theorem Comment.documents_shift (c : Comment) (anchor : Anchor) :
    (c.shift k).documents (anchor.shift k) = c.documents anchor := by
  simp only [Comment.documents, Comment.shift, SourceRange.shift, Position.shift, Anchor.shift]
  rw [Bool.eq_iff_iff]
  simp only [Bool.or_eq_true, beq_iff_eq]
  omega

theorem findDoc_shift (comments : List Comment) (anchor : Anchor) :
    findDoc (comments.map (Comment.shift k)) (anchor.shift k) =
      (findDoc comments anchor).map (Comment.shift k) := by
  rw [findDoc, List.find?_map, findDoc]
  simp only [Function.comp_def, Comment.documents_shift]

theorem findDocIndex_shift (comments : List Comment) (anchor : Anchor) :
    findDocIndex (comments.map (Comment.shift k)) (anchor.shift k) =
      findDocIndex comments anchor := by
  rw [findDocIndex, List.findIdx?_map, findDocIndex]
  simp only [Function.comp_def, Comment.documents_shift]

/-- What is read off shifted statements is what is read off them, shifted. -/
theorem filterMap_shiftOf {α : Type} {f f' : Stmt → Option α} {move : α → α} {stmts : List Stmt}
    (h : ∀ stmt ∈ stmts, f' (stmt.shift k) = (f stmt).map move) :
    (shiftOf k stmts).filterMap f' = (stmts.filterMap f).map move := by
  rw [shiftOf_eq_map, List.filterMap_map, List.map_filterMap]
  exact List.filterMap_congr h

theorem commentsOf_shiftOf (stmts : List Stmt) :
    commentsOf (shiftOf k stmts) = (commentsOf stmts).map (Comment.shift k) := by
  apply filterMap_shiftOf
  intro stmt _
  cases stmt <;> rfl

theorem firstUnhandled?_shiftOf (stmts : List Stmt) :
    firstUnhandled? (shiftOf k stmts) = firstUnhandled? stmts := by
  have hkind : ∀ stmt : Stmt, (stmt.shift k).unknownKind? = stmt.unknownKind? := by
    intro stmt
    cases stmt <;> rfl
  rw [firstUnhandled?, shiftOf_eq_map, List.findSome?_map, firstUnhandled?]
  simp only [Function.comp_def, hkind]

theorem Stmt.declAnchor?_shift (stmt : Stmt) :
    (stmt.shift k).declAnchor? = stmt.declAnchor?.map (Anchor.shift k) := by
  cases stmt with
  | callable c => exact congrArg some c.anchor_shift
  | classDecl head body => exact congrArg some head.anchor_shift
  | _ => rfl

theorem claimedComments_shiftOf (stmts : List Stmt) :
    claimedComments (shiftOf k stmts) = claimedComments stmts := by
  rw [claimedComments, claimedComments, commentsOf_shiftOf, shiftOf_eq_map, List.filterMap_map,
    List.filterMap_filterMap, List.filterMap_filterMap]
  congr 1
  funext stmt
  rw [Function.comp_apply, Stmt.declAnchor?_shift]
  cases stmt.declAnchor? with
  | none => rfl
  | some anchor => exact findDocIndex_shift (commentsOf stmts) anchor

theorem detachedEntries_shiftOf (options : Options) (stmts : List Stmt) :
    detachedEntries options (shiftOf k stmts) =
      (detachedEntries options stmts).map (Placed.shift k) := by
  have hcomments : detachedComments options (shiftOf k stmts) =
      (detachedComments options stmts).map (Comment.shift k) := by
    rw [detachedComments, detachedComments, claimedComments_shiftOf, commentsOf_shiftOf,
      List.zipIdx_map, List.filter_map, List.map_map, List.map_map]
    rfl
  unfold detachedEntries
  split
  · rw [hcomments, List.map_map, List.map_map]
    rfl
  · rfl

theorem ClassEntry.of_shift (head : Documented ClassHead) (body : List Stmt) :
    ClassEntry.of (head.shift k (ClassHead.shift k)) (shiftOf k body) =
      (ClassEntry.of head body).shift k := by
  have hfields : (shiftOf k body).filterMap Stmt.field? =
      (body.filterMap Stmt.field?).map (Field.shift k) := by
    apply filterMap_shiftOf
    intro stmt _
    cases stmt <;> rfl
  have hmethods : (shiftOf k body).filterMap Stmt.method? =
      (body.filterMap Stmt.method?).map (Callable.shift k) := by
    apply filterMap_shiftOf
    intro stmt _
    cases stmt with
    | callable c =>
        obtain ⟨name, range, params, returns, annots, access, role⟩ := c
        cases role <;> rfl
    | _ => rfl
  simp only [ClassEntry.of, ClassEntry.shift, hfields, hmethods, commentsOf_shiftOf, List.map_map,
    Function.comp_def, Field.anchor_shift, Callable.anchor_shift, findDoc_shift,
    Documented.shift]

theorem classEntry_shift (head : Documented ClassHead) (body : List Stmt) :
    classEntry (head.shift k (ClassHead.shift k)) (shiftOf k body) =
      (classEntry head body).shift k := by
  rw [classEntry, classEntry, firstUnhandled?_shiftOf]
  cases firstUnhandled? body with
  | some e => rfl
  | none => exact congrArg Entry.classDecl (ClassEntry.of_shift head body)

/-- The outline of a scope is shifted if the entries of its statements are. -/
theorem outline_shiftOf_of_entries {options : Options} {stmts : List Stmt}
    (hentries : ∀ stmt ∈ stmts, ∀ comments,
      Stmt.entry? options (comments.map (Comment.shift k)) (stmt.shift k) =
        (stmt.entry? options comments).map (Placed.shift k)) :
    outline options (shiftOf k stmts) = shiftEntries k (outline options stmts) := by
  cases hunhandled : firstUnhandled? stmts with
  | some e =>
      rw [outline_of_unhandled ((firstUnhandled?_shiftOf stmts).trans hunhandled),
        outline_of_unhandled hunhandled]
      rfl
  | none =>
      have hplaced : (shiftOf k stmts).filterMap
          (Stmt.entry? options ((commentsOf stmts).map (Comment.shift k))) =
            (stmts.filterMap (Stmt.entry? options (commentsOf stmts))).map (Placed.shift k) :=
        filterMap_shiftOf fun stmt hstmt => hentries stmt hstmt (commentsOf stmts)
      rw [outline_of_handled ((firstUnhandled?_shiftOf stmts).trans hunhandled),
        outline_of_handled hunhandled, commentsOf_shiftOf, hplaced, detachedEntries_shiftOf,
        ← List.map_append, sortPlaced_shift, shiftEntries_eq_map, List.map_map, List.map_map]
      rfl

theorem Stmt.entry?_shift (options : Options) (stmt : Stmt) : ∀ comments,
    Stmt.entry? options (comments.map (Comment.shift k)) (stmt.shift k) =
      (stmt.entry? options comments).map (Placed.shift k) := by
  induction stmt using Stmt.treeInduction with
  | callable c =>
      intro comments
      rw [Stmt.shift, Stmt.entry?, Callable.anchor_shift, findDoc_shift]
      rfl
  | classDecl head body _ =>
      intro comments
      have hentry := classEntry_shift (k := k) ⟨head, findDoc comments head.anchor⟩ body
      rw [Stmt.shift, Stmt.entry?, ClassHead.anchor_shift, findDoc_shift]
      exact congrArg (fun entry => some (Placed.mk (head.shift k).place entry)) hentry
  | namespaceDecl head body ih =>
      intro comments
      rw [Stmt.shift, Stmt.entry?_namespaceDecl, Stmt.entry?_namespaceDecl,
        NamespaceHead.anchor_shift, findDoc_shift, outline_shiftOf_of_entries ih]
      rfl
  | _ =>
      intro comments
      rfl

theorem outline_shiftOf (options : Options) (stmts : List Stmt) :
    outline options (shiftOf k stmts) = shiftEntries k (outline options stmts) :=
  outline_shiftOf_of_entries fun stmt _ => stmt.entry?_shift options

theorem ClassEntry.steps_shift (scope : Option Text) (c : ClassEntry) :
    (c.shift k).steps scope = (c.steps scope).map (Step.shift k) := by
  simp [ClassEntry.steps, ClassEntry.shift, Step.shift, Documented.shift, ClassHead.shift]

mutual
theorem Entry.steps_shift (scope : Option Text) : (entry : Entry) →
    (entry.shift k).steps scope = (entry.steps scope).map (Step.shift k)
  | .callable _ => rfl
  | .classDecl c => c.steps_shift scope
  | .namespaceDecl head members => by
      have hmembers := stepsOf_shiftEntries (some (qualify scope head.decl.name)) members
      simp only [Entry.shift, Entry.steps, List.map_cons, ← hmembers]
      rfl
  | .detached _ => rfl
  | .unhandled _ => rfl

theorem stepsOf_shiftEntries (scope : Option Text) : (entries : List Entry) →
    stepsOf scope (shiftEntries k entries) = (stepsOf scope entries).map (Step.shift k)
  | [] => rfl
  | entry :: rest => by
      rw [shiftEntries, stepsOf, stepsOf, entry.steps_shift, stepsOf_shiftEntries scope rest,
        List.map_append]
end

/-- A shifted scope has the steps it had, shifted. -/
theorem scopeSteps_shiftOf (options : Options) (scope : Option Text) (stmts : List Stmt) :
    scopeSteps options scope (shiftOf k stmts) =
      (scopeSteps options scope stmts).map (Step.shift k) := by
  rw [scopeSteps, scopeSteps, outline_shiftOf, stepsOf_shiftEntries]

end DocWeave
