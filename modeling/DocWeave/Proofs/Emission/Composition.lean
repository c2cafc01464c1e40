/-
Files put together.  When all that one list of statements shows starts before
all that another one shows, and no comment of either documents a declaration of
the other, both can be written as one: what is written is what the first writes
and then the second, from the containers the first has left.
-/
import DocWeave.Proofs.Emission.CodeText
import DocWeave.Proofs.Emission.SourceOrder
import DocWeave.Proofs.Outline.Selection

namespace DocWeave

def Stmt.isShown (stmt : Stmt) : Bool :=
  stmt.place?.isSome || stmt.comment?.isSome

/-- Whether comments document no declaration of a list. -/
def DocumentNothingIn (comments : List Comment) (stmts : List Stmt) : Prop :=
  ∀ c ∈ comments, ∀ stmt ∈ stmts, ∀ anchor ∈ stmt.declAnchor?, c.documents anchor = false

instance (comments : List Comment) (stmts : List Stmt) :
    Decidable (DocumentNothingIn comments stmts) :=
  inferInstanceAs (Decidable (∀ c ∈ comments, ∀ stmt ∈ stmts, ∀ anchor ∈ stmt.declAnchor?,
    c.documents anchor = false))

/-- One list of statements stands before another, and neither has a comment for
a declaration of the other. -/
structure StandsBefore (first second : List Stmt) : Prop where
  starts : ∀ x ∈ first, ∀ y ∈ second, x.isShown = true → y.isShown = true →
    x.range.start < y.range.start
  first_apart : DocumentNothingIn (commentsOf first) second
  second_apart : DocumentNothingIn (commentsOf second) first

theorem eq_filter_append_filter_not {α : Type} {p : α → Bool} {xs : List α}
    (h : xs.Pairwise fun a b => p b = true → p a = true) :
    xs = xs.filter p ++ xs.filter fun x => !p x := by
  induction xs with
  | nil => rfl
  | cons x rest ih =>
      obtain ⟨hx, hrest⟩ := List.pairwise_cons.mp h
      by_cases hpx : p x = true
      · rw [List.filter_cons_of_pos hpx, List.filter_cons_of_neg (by simp [hpx]),
          List.cons_append, ← ih hrest]
      · have hnone : rest.filter p = [] := by
          rw [List.filter_eq_nil_iff]
          exact fun y hy hpy => hpx (hx y hy hpy)
        rw [List.filter_cons_of_neg hpx, List.filter_cons_of_pos (by simp [hpx]), hnone,
          List.nil_append, ← List.nil_append (rest.filter _), ← hnone, ← ih hrest]

/-- Items of two kinds are sorted apart when those of one kind come first. -/
theorem sortPlaced_eq_append {α : Type} {p : Placed α → Bool} {xs : List (Placed α)}
    (hp : ∀ x y : Placed α, x.place.notAfter y.place = true → p y = true → p x = true) :
    sortPlaced xs = sortPlaced (xs.filter p) ++ sortPlaced (xs.filter fun x => !p x) := by
  rw [← sortPlaced_filter, ← sortPlaced_filter]
  exact eq_filter_append_filter_not ((sortPlaced_sorted xs).imp fun {x y} h => hp x y h)

theorem Position.lt_of_le_of_lt {a b c : Position} (hab : a ≤ b) (hbc : b < c) : a < c := by
  rw [Position.le_iff] at hab
  rw [Position.lt_iff] at hbc ⊢
  omega

theorem Position.lt_irrefl (a : Position) : ¬ a < a := by
  rw [Position.lt_iff]
  omega

/-- Two lists of items, each given in two parts, are sorted one after the other
when the items of the first start before those of the second. -/
theorem sortPlaced_append_of_lt {α : Type} {xs xs' ys ys' : List (Placed α)}
    (h : ∀ x ∈ xs ++ xs', ∀ y ∈ ys ++ ys', x.place.start < y.place.start) :
    sortPlaced ((xs ++ ys) ++ (xs' ++ ys')) = sortPlaced (xs ++ xs') ++ sortPlaced (ys ++ ys') := by
  let isFirst := fun x : Placed α =>
    (ys ++ ys').all fun y => decide (x.place.start < y.place.start)
  have hfirst : ∀ x ∈ xs ++ xs', isFirst x = true := by
    intro x hx
    rw [List.all_eq_true]
    exact fun y hy => decide_eq_true (h x hx y hy)
  have hsecond : ∀ y ∈ ys ++ ys', ¬ isFirst y = true := by
    intro y hy hall
    have hself := List.all_eq_true.mp hall y hy
    exact Position.lt_irrefl y.place.start (of_decide_eq_true hself)
  have hdown : ∀ x y : Placed α, x.place.notAfter y.place = true → isFirst y = true →
      isFirst x = true := by
    intro x y hxy hy
    rw [List.all_eq_true] at hy ⊢
    intro z hz
    have hyz := of_decide_eq_true (hy z hz)
    exact decide_eq_true (Position.lt_of_le_of_lt (Place.start_le_of_notAfter hxy) hyz)
  rw [List.forall_mem_append] at hfirst hsecond
  have hkept : ((xs ++ ys) ++ (xs' ++ ys')).filter isFirst = xs ++ xs' := by
    simp only [List.filter_append, List.filter_eq_self.mpr hfirst.1,
      List.filter_eq_self.mpr hfirst.2, List.filter_eq_nil_iff.mpr hsecond.1,
      List.filter_eq_nil_iff.mpr hsecond.2, List.append_nil]
  have hleft : ((xs ++ ys) ++ (xs' ++ ys')).filter (fun x => !isFirst x) = ys ++ ys' := by
    have hnone : ∀ l : List (Placed α), (∀ x ∈ l, isFirst x = true) →
        l.filter (fun x => !isFirst x) = [] := by
      intro l hl
      rw [List.filter_eq_nil_iff]
      intro x hx
      simp [hl x hx]
    have hall : ∀ l : List (Placed α), (∀ y ∈ l, ¬ isFirst y = true) →
        l.filter (fun x => !isFirst x) = l := by
      intro l hl
      rw [List.filter_eq_self]
      intro y hy
      simp [hl y hy]
    simp only [List.filter_append, hnone xs hfirst.1, hnone xs' hfirst.2, hall ys hsecond.1,
      hall ys' hsecond.2, List.nil_append]
  rw [sortPlaced_eq_append hdown, hkept, hleft]

theorem findDoc_append_left {comments others : List Comment} {anchor : Anchor}
    (h : ∀ c ∈ others, c.documents anchor = false) :
    findDoc (comments ++ others) anchor = findDoc comments anchor := by
  have hnone : findDoc others anchor = none := by
    simpa [findDoc] using h
  rw [findDoc, List.find?_append, ← findDoc, ← findDoc, hnone, Option.or_none]

theorem findDoc_append_right {comments others : List Comment} {anchor : Anchor}
    (h : ∀ c ∈ comments, c.documents anchor = false) :
    findDoc (comments ++ others) anchor = findDoc others anchor := by
  have hnone : findDoc comments anchor = none := by
    simpa [findDoc] using h
  rw [findDoc, List.find?_append, ← findDoc, ← findDoc, hnone, Option.none_or]

theorem findDocIndex_append_left {comments others : List Comment} {anchor : Anchor}
    (h : ∀ c ∈ others, c.documents anchor = false) :
    findDocIndex (comments ++ others) anchor = findDocIndex comments anchor := by
  have hnone : findDocIndex others anchor = none := by
    simpa [findDocIndex] using h
  rw [findDocIndex, List.findIdx?_append, ← findDocIndex, ← findDocIndex, hnone,
    Option.map_none, Option.or_none]

theorem findDocIndex_append_right {comments others : List Comment} {anchor : Anchor}
    (h : ∀ c ∈ comments, c.documents anchor = false) :
    findDocIndex (comments ++ others) anchor =
      (findDocIndex others anchor).map (· + comments.length) := by
  have hnone : findDocIndex comments anchor = none := by
    simpa [findDocIndex] using h
  rw [findDocIndex, List.findIdx?_append, ← findDocIndex, ← findDocIndex, hnone, Option.none_or]

/-- Only the comment of a declaration matters for its entry. -/
theorem Stmt.entry?_congr {comments comments' : List Comment} {stmt : Stmt}
    (h : ∀ anchor ∈ stmt.declAnchor?, findDoc comments anchor = findDoc comments' anchor)
    (options : Options) : stmt.entry? options comments = stmt.entry? options comments' := by
  match stmt with
  | .callable c => simp only [Stmt.entry?, h c.anchor rfl]
  | .classDecl head body => simp only [Stmt.entry?, h head.anchor rfl]
  | .namespaceDecl head body => simp only [Stmt.entry?_namespaceDecl, h head.anchor rfl]
  | .comment _ | .field _ | .other _ _ | .unknown _ _ => rfl

variable {a b : List Stmt}

theorem commentsOf_append (a b : List Stmt) :
    commentsOf (a ++ b) = commentsOf a ++ commentsOf b :=
  List.filterMap_append

theorem StandsBefore.entries_append (h : StandsBefore a b) (options : Options) :
    (a ++ b).filterMap (Stmt.entry? options (commentsOf (a ++ b))) =
      a.filterMap (Stmt.entry? options (commentsOf a)) ++
        b.filterMap (Stmt.entry? options (commentsOf b)) := by
  rw [List.filterMap_append, commentsOf_append]
  congr 1
  · apply List.filterMap_congr
    intro stmt hstmt
    apply Stmt.entry?_congr
    intro anchor hanchor
    exact findDoc_append_left fun c hc => h.second_apart c hc stmt hstmt anchor hanchor
  · apply List.filterMap_congr
    intro stmt hstmt
    apply Stmt.entry?_congr
    intro anchor hanchor
    exact findDoc_append_right fun c hc => h.first_apart c hc stmt hstmt anchor hanchor

theorem StandsBefore.claimedComments_append (h : StandsBefore a b) :
    claimedComments (a ++ b) =
      claimedComments a ++ (claimedComments b).map (· + (commentsOf a).length) := by
  rw [claimedComments, List.filterMap_append, List.filterMap_append, commentsOf_append,
    claimedComments, claimedComments, List.map_filterMap]
  congr 1
  · apply List.filterMap_congr
    intro anchor hanchor
    obtain ⟨stmt, hstmt, hdecl⟩ := List.mem_filterMap.mp hanchor
    exact findDocIndex_append_left fun c hc => h.second_apart c hc stmt hstmt anchor hdecl
  · apply List.filterMap_congr
    intro anchor hanchor
    obtain ⟨stmt, hstmt, hdecl⟩ := List.mem_filterMap.mp hanchor
    exact findDocIndex_append_right fun c hc => h.first_apart c hc stmt hstmt anchor hdecl

theorem lt_of_mem_claimedComments {stmts : List Stmt} {index : Nat}
    (h : index ∈ claimedComments stmts) : index < (commentsOf stmts).length := by
  obtain ⟨anchor, -, hindex⟩ := List.mem_filterMap.mp h
  obtain ⟨hlt, -⟩ := List.findIdx?_eq_some_iff_getElem.mp hindex
  exact hlt

theorem StandsBefore.detachedComments_append (h : StandsBefore a b) (options : Options) :
    detachedComments options (a ++ b) =
      detachedComments options a ++ detachedComments options b := by
  have hleft : ∀ index < (commentsOf a).length, (claimedComments (a ++ b)).contains index =
      (claimedComments a).contains index := by
    intro index hindex
    rw [h.claimedComments_append, List.contains_append, Bool.or_eq_left_iff_imp]
    intro hshifted
    obtain ⟨other, -, rfl⟩ := List.mem_map.mp (List.contains_iff_mem.mp hshifted)
    omega
  have hright : ∀ index, (claimedComments (a ++ b)).contains ((commentsOf a).length + index) =
      (claimedComments b).contains index := by
    intro index
    rw [Bool.eq_iff_iff, List.contains_iff_mem, List.contains_iff_mem, h.claimedComments_append,
      List.mem_append, List.mem_map]
    constructor
    · rintro (hindex | ⟨other, hother, heq⟩)
      · have hlt := lt_of_mem_claimedComments hindex
        omega
      · obtain rfl : other = index := by omega
        exact hother
    · intro hindex
      exact Or.inr ⟨index, hindex, Nat.add_comm index _⟩
  have hfirst : ((commentsOf a).zipIdx.filter fun c =>
      !(claimedComments (a ++ b)).contains c.2 && c.1.isDocBlock options) =
        (commentsOf a).zipIdx.filter fun c =>
          !(claimedComments a).contains c.2 && c.1.isDocBlock options := by
    apply List.filter_congr
    intro c hc
    rw [hleft c.2 (List.snd_lt_of_mem_zipIdx hc)]
  have hsecond : ((commentsOf b).zipIdx (commentsOf a).length).filter (fun c =>
      !(claimedComments (a ++ b)).contains c.2 && c.1.isDocBlock options) =
        ((commentsOf b).zipIdx.filter fun c =>
          !(claimedComments b).contains c.2 && c.1.isDocBlock options).map fun c =>
            (c.1, (commentsOf a).length + c.2) := by
    rw [List.zipIdx_eq_map_add, List.filter_map]
    congr 1
    apply List.filter_congr
    intro c _
    rw [Function.comp_apply, hright]
  rw [detachedComments, commentsOf_append, List.zipIdx_append, List.filter_append,
    List.map_append, Nat.zero_add, hfirst, hsecond, List.map_map]
  rfl

theorem Stmt.start_of_place? {stmt : Stmt} {place : Place} (h : stmt.place? = some place) :
    stmt.isShown = true ∧ place.start = stmt.range.start := by
  cases stmt with
  | callable c => exact ⟨rfl, Option.some.inj h ▸ rfl⟩
  | classDecl head body => exact ⟨rfl, Option.some.inj h ▸ rfl⟩
  | namespaceDecl head body => exact ⟨rfl, Option.some.inj h ▸ rfl⟩
  | _ => cases h

theorem mem_commentsOf {stmts : List Stmt} {c : Comment} :
    c ∈ commentsOf stmts ↔ .comment c ∈ stmts := by
  rw [commentsOf, List.mem_filterMap]
  constructor
  · rintro ⟨stmt, hstmt, hcomment⟩
    cases stmt with
    | comment other => exact Option.some.inj hcomment ▸ hstmt
    | _ => cases hcomment
  · intro hmem
    exact ⟨_, hmem, rfl⟩

/-- What a scope shows comes from a declaration or a comment of it and starts
where that starts. -/
theorem exists_shown_of_mem {options : Options} {stmts : List Stmt} {x : Placed Entry}
    (h : x ∈ stmts.filterMap (Stmt.entry? options (commentsOf stmts)) ++
      detachedEntries options stmts) :
    ∃ stmt ∈ stmts, stmt.isShown = true ∧ x.place.start = stmt.range.start := by
  rcases List.mem_append.mp h with hdeclared | hdetached
  · obtain ⟨stmt, hstmt, hentry⟩ := List.mem_filterMap.mp hdeclared
    have hplace := Stmt.place?_eq_map_entry? options (commentsOf stmts) stmt
    rw [hentry] at hplace
    exact ⟨stmt, hstmt, Stmt.start_of_place? hplace.symm⟩
  · rw [detachedEntries] at hdetached
    split at hdetached
    · obtain ⟨c, hc, rfl⟩ := List.mem_map.mp hdetached
      obtain ⟨⟨_, index⟩, hmem, rfl⟩ := List.mem_map.mp hc
      have hcomment := List.fst_mem_of_mem_zipIdx (List.mem_filter.mp hmem).1
      exact ⟨_, mem_commentsOf.mp hcomment, rfl, rfl⟩
    · cases hdetached

/-- The outline of two lists, the first of which stands before the second. -/
theorem StandsBefore.outline_append (h : StandsBefore a b) (ha : firstUnhandled? a = none)
    (hb : firstUnhandled? b = none) (options : Options) :
    outline options (a ++ b) = outline options a ++ outline options b := by
  have hboth : firstUnhandled? (a ++ b) = none := by
    rw [firstUnhandled?, Option.map_eq_none_iff] at ha hb ⊢
    rw [List.findSome?_append, ha, hb]
    rfl
  have hdetached : detachedEntries options (a ++ b) =
      detachedEntries options a ++ detachedEntries options b := by
    simp only [detachedEntries, h.detachedComments_append]
    split
    · exact List.map_append
    · rfl
  rw [outline_of_handled hboth, outline_of_handled ha, outline_of_handled hb, h.entries_append,
    hdetached, sortPlaced_append_of_lt, List.map_append]
  intro x hx y hy
  obtain ⟨stmt, hstmt, hshown, hstart⟩ := exists_shown_of_mem hx
  obtain ⟨stmt', hstmt', hshown', hstart'⟩ := exists_shown_of_mem hy
  rw [hstart, hstart']
  exact h.starts stmt hstmt stmt' hstmt' hshown hshown'

theorem DocBlock.render_ne_nil (block : DocBlock) : block.render ≠ [] := by
  rw [DocBlock.render, List.append_assoc, List.singleton_append, Text.unlines_cons]
  simp

theorem Segment.text_ne_nil (segment : Segment) : segment.text ≠ [] := by
  intro h
  cases segment with
  | block b => exact b.render_ne_nil h
  | detached b => exact b.render_ne_nil h
  | function name params => simpa using (code_function name params).symm.trans h
  | method name params => simpa [stubText] using (code_method name params).symm.trans h
  | classStart name outer =>
      rcases outer with _ | outer
      · simpa using (code_classStart_none name).symm.trans h
      · simpa using (code_classStart_some name outer).symm.trans h
  | classEnd => exact List.cons_ne_nil _ _ h
  | container qualified =>
      rw [Segment.text_container] at h
      simp at h
  | member scope name => simpa using (code_member scope name).symm.trans h

theorem segmentsText_eq_nil_iff (segments : List Segment) :
    segmentsText segments = [] ↔ segments = [] := by
  match segments with
  | [] => simp [segmentsText, Text.unlines]
  | first :: rest =>
      rw [segmentsText, List.map_cons, Text.unlines_cons, List.append_eq_nil_iff]
      simp [first.text_ne_nil]

theorem Text.unlines_append {ls ms : List Text} (hls : ls ≠ []) (hms : ms ≠ []) :
    Text.unlines (ls ++ ms) = Text.unlines [Text.unlines ls, Text.unlines ms] := by
  obtain ⟨l, ls, rfl⟩ := List.exists_cons_of_ne_nil hls
  obtain ⟨m, ms, rfl⟩ := List.exists_cons_of_ne_nil hms
  simp [Text.unlines_cons]

/-- The text of two lists of segments is the texts of both, on lines of their
own as far as they are there. -/
theorem segmentsText_append (a b : List Segment) :
    segmentsText (a ++ b) =
      Text.unlines ([segmentsText a, segmentsText b].filter fun text => !text.isEmpty) := by
  have hempty : ∀ segments : List Segment,
      (segmentsText segments).isEmpty = segments.isEmpty := by
    intro segments
    rw [Bool.eq_iff_iff, List.isEmpty_iff, List.isEmpty_iff, segmentsText_eq_nil_iff]
  by_cases ha : a = []
  · by_cases hb : b = []
    · subst ha hb
      rfl
    · rw [List.filter_cons_of_neg (by simp [hempty, ha]),
        List.filter_cons_of_pos (by simp [hempty, hb]), ha, List.filter_nil,
        Text.unlines, List.intercalate_singleton, List.nil_append]
  · by_cases hb : b = []
    · rw [List.filter_cons_of_pos (by simp [hempty, ha]),
        List.filter_cons_of_neg (by simp [hempty, hb]), hb, List.filter_nil,
        Text.unlines, List.intercalate_singleton, List.append_nil]
    · rw [List.filter_cons_of_pos (by simp [hempty, ha]),
        List.filter_cons_of_pos (by simp [hempty, hb]), List.filter_nil, segmentsText,
        List.map_append, Text.unlines_append (mt List.map_eq_nil_iff.mp ha)
          (mt List.map_eq_nil_iff.mp hb)]
      rfl

/-- Two lists of statements, the first of which stands before the second, are
written together as they are written one after the other. -/
theorem emitScope_append_of_standsBefore (ctx : Context) (created : List Text)
    (scope : Option Text) (first second : List Stmt)
    (hfirst : ∀ stmt ∈ treeOf first, stmt.unknownKind? = none)
    (hsecond : ∀ stmt ∈ treeOf second, stmt.unknownKind? = none)
    (hbefore : StandsBefore first second) :
    let earlier := emitScope ctx created scope first
    let later := emitScope ctx earlier.created scope second
    let both := emitScope ctx created scope (first ++ second)
    both.created = later.created ∧
      both.diagnostics = earlier.diagnostics ++ later.diagnostics ∧
      ∃ text text', earlier.text = .ok text ∧ later.text = .ok text' ∧
        both.text = .ok (Text.unlines ([text, text'].filter fun t => !t.isEmpty)) := by
  intro earlier later both
  have hearlier : earlier.failure = none :=
    emitScope_failure_eq_none hfirst ctx created scope
  have hlater : later.failure = none :=
    emitScope_failure_eq_none hsecond ctx earlier.created scope
  have hboth : both = earlier.andThen later := by
    change emit ctx created (scopeSteps ctx.options scope (first ++ second)) = _
    rw [scopeSteps, hbefore.outline_append (firstUnhandled?_eq_none_of_known hfirst)
      (firstUnhandled?_eq_none_of_known hsecond), stepsOf_append]
    exact emit_append ctx created _ _ hearlier
  rw [hboth]
  refine ⟨rfl, rfl, segmentsText earlier.segments, segmentsText later.segments,
    Emission.text_of_success hearlier, Emission.text_of_success hlater, ?_⟩
  rw [← segmentsText_append]
  exact Emission.text_of_success hlater

namespace CompositionWitness

/-- A function whose comment names a parameter it does not have. -/
def remarked (name : Text) (line : Int) : List Stmt :=
  [.comment ⟨.ofLines line none, "' @param gone".toList⟩,
    .callable { name, range := .ofLines (line + 1) none }]

def first : List Stmt :=
  remarked "open".toList 1 ++
    [.namespaceDecl ⟨"Net.Http".toList, .ofLines 4 (some 7)⟩ (remarked "get".toList 5)]

/-- A field nothing is written for, though it is listed above everything else;
the namespace once more, now with nothing in it; a comment that stands alone;
and a function. -/
def second : List Stmt :=
  [.field { name := "x".toList, range := .ofLines 0 none },
    .namespaceDecl ⟨"Net".toList, .ofLines 9 none⟩ [],
    .comment ⟨.ofLines 11 none, "/** Kept. */".toList⟩] ++ remarked "close".toList 13

theorem standsBefore : StandsBefore first second :=
  ⟨by decide, by decide, by decide⟩

end CompositionWitness

theorem emitScope_append_of_standsBefore_reopened :
    let ctx : Context := { options := { keepDetached := true } }
    let both := emitScope ctx [] none (CompositionWitness.first ++ CompositionWitness.second)
    both.created = ["Net".toList, "Net.Http".toList] ∧ both.diagnostics.length = 3 ∧
      ∃ text text',
        (emitScope ctx [] none CompositionWitness.first).text = .ok text ∧
        (emitScope ctx ["Net".toList, "Net.Http".toList] none
          CompositionWitness.second).text = .ok text' ∧
        both.text = .ok (Text.unlines ([text, text'].filter fun t => !t.isEmpty)) := by
  intro ctx both
  have hfirst : (emitScope ctx [] none CompositionWitness.first).created =
      ["Net".toList, "Net.Http".toList] := by decide +kernel
  obtain ⟨hcreated, hdiagnostics, htexts⟩ := emitScope_append_of_standsBefore ctx [] none
    CompositionWitness.first CompositionWitness.second (by decide) (by decide)
    CompositionWitness.standsBefore
  rw [hfirst] at hcreated hdiagnostics htexts
  refine ⟨hcreated.trans ?_, ?_, htexts⟩
  · decide +kernel
  · rw [hdiagnostics]
    decide +kernel

end DocWeave
