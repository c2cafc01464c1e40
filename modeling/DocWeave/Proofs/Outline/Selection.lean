/-
Parts of what a scope writes.  Leaving items out and putting them in order can
be done one after the other in either order, so that what is left of a scope
does not depend on what was left out.  In particular, a scope without the
comments that stand alone gives the steps it gives when these are not kept.
-/
import DocWeave.Proofs.Outline.Trees
import Mathlib.Data.List.Basic

namespace DocWeave

theorem insertPlaced_of_notAfter {α : Type} {x : Placed α} {xs : List (Placed α)}
    (h : ∀ y ∈ xs, x.place.notAfter y.place = true) : insertPlaced x xs = x :: xs := by
  match xs with
  | [] => rfl
  | y :: rest => rw [insertPlaced, if_pos (h y List.mem_cons_self)]

theorem insertPlaced_filter_of_neg {α : Type} {p : Placed α → Bool} {x : Placed α}
    (hx : p x = false) (xs : List (Placed α)) :
    (insertPlaced x xs).filter p = xs.filter p := by
  induction xs with
  | nil => simp [insertPlaced, hx]
  | cons y rest ih =>
      by_cases hxy : x.place.notAfter y.place = true
      · simp [insertPlaced, hxy, hx]
      · simp [insertPlaced, hxy, List.filter_cons, ih]

theorem insertPlaced_filter_of_pos {α : Type} {p : Placed α → Bool} {x : Placed α}
    (hx : p x = true) {xs : List (Placed α)}
    (hsorted : xs.Pairwise fun a b => a.place.notAfter b.place = true) :
    (insertPlaced x xs).filter p = insertPlaced x (xs.filter p) := by
  induction xs with
  | nil => simp [insertPlaced, hx]
  | cons y rest ih =>
      obtain ⟨hy, hrest⟩ := List.pairwise_cons.mp hsorted
      by_cases hxy : x.place.notAfter y.place = true
      · have hall : ∀ z ∈ y :: rest, x.place.notAfter z.place = true := by
          intro z hz
          rcases List.mem_cons.mp hz with rfl | hz
          · exact hxy
          · exact Place.notAfter_trans hxy (hy z hz)
        rw [insertPlaced_of_notAfter hall, List.filter_cons_of_pos hx, insertPlaced_of_notAfter]
        intro z hz
        exact hall z (List.mem_filter.mp hz).1
      · by_cases hpy : p y = true
        · simp [insertPlaced, hxy, hpy, ih hrest]
        · simp [insertPlaced, hxy, hpy, ih hrest]

/-- Items can be left out before sorting or after it. -/
theorem sortPlaced_filter {α : Type} (p : Placed α → Bool) (xs : List (Placed α)) :
    (sortPlaced xs).filter p = sortPlaced (xs.filter p) := by
  induction xs with
  | nil => rfl
  | cons x rest ih =>
      change (insertPlaced x (sortPlaced rest)).filter p = _
      by_cases hx : p x = true
      · rw [insertPlaced_filter_of_pos hx (sortPlaced_sorted rest), ih, List.filter_cons_of_pos hx]
        rfl
      · rw [insertPlaced_filter_of_neg (Bool.eq_false_iff.mpr hx), ih, List.filter_cons_of_neg hx]

theorem flatMap_filter_of_eq_nil {α β : Type} {p : α → Bool} {f : α → List β} {xs : List α}
    (h : ∀ x ∈ xs, p x = false → f x = []) : (xs.filter p).flatMap f = xs.flatMap f := by
  induction xs with
  | nil => rfl
  | cons x rest ih =>
      have hrest := ih fun y hy => h y (List.mem_cons_of_mem x hy)
      by_cases hx : p x = true
      · rw [List.filter_cons_of_pos hx, List.flatMap_cons, List.flatMap_cons, hrest]
      · have hnil := h x List.mem_cons_self (Bool.eq_false_iff.mpr hx)
        rw [List.filter_cons_of_neg hx, List.flatMap_cons, hnil, hrest, List.nil_append]

/-- The comment a step writes on its own. -/
def Step.detached? : Step → Option Comment
  | .detached c => some c
  | _ => none

def Entry.isDetached : Entry → Bool
  | .detached _ => true
  | _ => false

theorem Stmt.entry?_isDetached {options : Options} {comments : List Comment} {stmt : Stmt}
    {placed : Placed Entry} (h : stmt.entry? options comments = some placed) :
    placed.item.isDetached = false := by
  cases stmt with
  | callable c => exact Option.some.inj h ▸ rfl
  | classDecl head body =>
      obtain rfl := Option.some.inj h
      rw [classEntry]
      split <;> rfl
  | namespaceDecl head body =>
      rw [Stmt.entry?_namespaceDecl] at h
      exact Option.some.inj h ▸ rfl
  | _ => cases h

/-- What is read off the steps of a scope, where nothing is read off comments
that stand alone, is read off its declarations in their order. -/
theorem scopeSteps_filterMap {β : Type} {f : Step → Option β}
    (hf : ∀ c, f (.detached c) = none) {stmts : List Stmt} (h : firstUnhandled? stmts = none)
    (options : Options) (scope : Option Text) :
    (scopeSteps options scope stmts).filterMap f =
      (sortPlaced (stmts.filterMap (Stmt.entry? options (commentsOf stmts)))).flatMap
        fun x => (x.item.steps scope).filterMap f := by
  have hkept : (stmts.filterMap (Stmt.entry? options (commentsOf stmts)) ++
      detachedEntries options stmts).filter (fun x => !x.item.isDetached) =
        stmts.filterMap (Stmt.entry? options (commentsOf stmts)) := by
    rw [List.filter_append, List.filter_eq_self.mpr, List.filter_eq_nil_iff.mpr, List.append_nil]
    · intro x hx
      obtain ⟨c, hc⟩ := detachedEntries_item hx
      simp [hc, Entry.isDetached]
    · intro x hx
      obtain ⟨stmt, -, hentry⟩ := List.mem_filterMap.mp hx
      simp [Stmt.entry?_isDetached hentry]
  rw [scopeSteps, outline_of_handled h, stepsOf_eq_flatMap, List.flatMap_map,
    List.filterMap_flatMap, ← hkept, ← sortPlaced_filter, flatMap_filter_of_eq_nil, hkept]
  intro x _ hx
  cases hitem : x.item with
  | detached c => simp [Entry.steps, hf]
  | _ => simp [hitem, Entry.isDetached] at hx

/-- Whether a step writes anything but a comment that stands alone. -/
def Step.isAttached (step : Step) : Bool :=
  step.detached?.isNone

/-- The steps of an entry without the comments that stand alone, in every scope
it may stand in. -/
def Entry.attachedSteps (entry : Entry) (scope : Option Text) : List Step :=
  (entry.steps scope).filter Step.isAttached

theorem ClassEntry.attachedSteps (scope : Option Text) (c : ClassEntry) :
    (c.steps scope).filter Step.isAttached = c.steps scope := by
  rw [List.filter_eq_self]
  intro step hstep
  rcases ClassEntry.mem_steps.mp hstep with rfl | ⟨method, -, rfl⟩ | rfl <;> rfl

theorem classEntry_attachedSteps (head : Documented ClassHead) (body : List Stmt) :
    (classEntry head body).attachedSteps = fun scope => (classEntry head body).steps scope := by
  funext scope
  rw [classEntry]
  split
  · rfl
  · exact ClassEntry.attachedSteps scope _

/-- Without comments that stand alone a statement gives the same steps whatever
is kept. -/
def SameAttached (options plain : Options) (stmt : Stmt) : Prop :=
  ∀ comments,
    (stmt.entry? options comments).map (Placed.map Entry.attachedSteps) =
      (stmt.entry? plain comments).map (Placed.map fun entry scope => entry.steps scope)

theorem scopeSteps_filter_of_sameAttached {options plain : Options}
    (hplain : plain.keepDetached = false) {stmts : List Stmt}
    (hstmts : ∀ stmt ∈ stmts, SameAttached options plain stmt) (scope : Option Text) :
    (scopeSteps options scope stmts).filter Step.isAttached = scopeSteps plain scope stmts := by
  match hunhandled : firstUnhandled? stmts with
  | some e =>
      rw [scopeSteps_of_unhandled hunhandled, scopeSteps_of_unhandled hunhandled]
      rfl
  | none =>
      have hplaced : (stmts.filterMap (Stmt.entry? options (commentsOf stmts))).map
          (Placed.map Entry.attachedSteps) =
            (stmts.filterMap (Stmt.entry? plain (commentsOf stmts))).map
              (Placed.map fun entry scope => entry.steps scope) := by
        rw [List.map_filterMap, List.map_filterMap]
        exact List.filterMap_congr fun stmt hstmt => hstmts stmt hstmt _
      have hnone : detachedEntries plain stmts = [] := by
        simp [detachedEntries, hplain]
      have hguard : ∀ c, Option.guard Step.isAttached (.detached c) = none := fun _ => rfl
      have hsorted := congrArg
        (List.flatMap fun x : Placed (Option Text → List Step) => x.item scope)
        (congrArg sortPlaced hplaced)
      rw [sortPlaced_map, sortPlaced_map, List.flatMap_map, List.flatMap_map] at hsorted
      rw [← List.filterMap_eq_filter, scopeSteps_filterMap hguard hunhandled, scopeSteps,
        outline_of_handled hunhandled, hnone, List.append_nil, stepsOf_eq_flatMap,
        List.flatMap_map]
      simp only [List.filterMap_eq_filter]
      exact hsorted

theorem sameAttached {options plain : Options} (hplain : plain.keepDetached = false)
    (stmt : Stmt) : SameAttached options plain stmt := by
  induction stmt using Stmt.treeInduction with
  | classDecl head body _ =>
      intro comments
      simp only [Stmt.entry?, Option.map_some, Placed.map, classEntry_attachedSteps]
  | namespaceDecl head body ih =>
      intro comments
      simp only [Stmt.entry?_namespaceDecl, Option.map_some, Placed.map]
      congr 2
      funext scope
      have hbody := scopeSteps_filter_of_sameAttached hplain ih
        (some (qualify scope head.name))
      rw [scopeSteps, scopeSteps] at hbody
      rw [Entry.attachedSteps, Entry.steps, Entry.steps, List.filter_cons_of_pos rfl, hbody]
  | _ => exact fun _ => rfl

/-- The steps of a scope without the comments that stand alone are those it
gives when these are not kept. -/
theorem scopeSteps_filter_isAttached (options : Options) {plain : Options}
    (hplain : plain.keepDetached = false) (scope : Option Text) (stmts : List Stmt) :
    (scopeSteps options scope stmts).filter Step.isAttached = scopeSteps plain scope stmts :=
  scopeSteps_filter_of_sameAttached hplain (fun stmt _ => sameAttached hplain stmt) scope

end DocWeave
