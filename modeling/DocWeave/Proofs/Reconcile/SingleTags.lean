/-
Tags that stand once.  Whatever an author wrote, and whatever names and types a
declaration has, one line of a callable's block is read as its return line; a
class's block has one line that is read as naming a parent if the class has a
parent, and none otherwise.  The parent lines of the author are taken out of the
comment one after another, and this comes to an end.
-/
import DocWeave.Proofs.Reconcile.OneLineEach

namespace DocWeave

/-- The lines among some that are read as tag lines of a role. -/
def linesReadAs (role : TagRole) (lines : List Text) : List Text :=
  lines.filter fun line => (BodyLine.read line).hasRole role

theorem linesReadAs_append (role : TagRole) (a b : List Text) :
    linesReadAs role (a ++ b) = linesReadAs role a ++ linesReadAs role b :=
  List.filter_append a b

theorem linesReadAs_eq_nil {role : TagRole} {lines : List Text}
    (h : ∀ line ∈ lines, (BodyLine.read line).hasRole role = false) :
    linesReadAs role lines = [] := by
  rw [linesReadAs, List.filter_eq_nil_iff]
  intro line hline
  simp [h line hline]

theorem linesReadAs_eq_self {role : TagRole} {lines : List Text}
    (h : ∀ line ∈ lines, (BodyLine.read line).hasRole role = true) :
    linesReadAs role lines = lines :=
  List.filter_eq_self.mpr h

theorem BodyLine.hasRole_of_word {word rest : Text} (hword : word.all isAlphanumeric = true)
    (hrest : rest.head?.any isAlphanumeric = false) (role : TagRole) :
    (BodyLine.read ('@' :: (word ++ rest))).hasRole role = (tagRole? word == some role) := by
  rw [← TagLine.role_parse?_of_word hword hrest]
  rcases hread : TagLine.parse? ('@' :: (word ++ rest)) with _ | tag
  · simp [BodyLine.hasRole, BodyLine.read, hread]
  · simp [BodyLine.hasRole, BodyLine.read, hread]

theorem hasRole_paramLine (p : Parameter) (tag : Option TagLine) (role : TagRole) :
    (BodyLine.read (paramLine p tag)).hasRole role = (some .param == some role) := by
  rw [paramLine_eq]
  exact BodyLine.hasRole_of_word rfl rfl role

theorem hasRole_returnLine (type : Text) (tag : Option TagLine) (role : TagRole) :
    (BodyLine.read (returnLine type tag)).hasRole role = (some .returns == some role) := by
  rw [returnLine_eq]
  exact BodyLine.hasRole_of_word rfl rfl role

theorem hasRole_parentLine (parent : Text) (role : TagRole) :
    (BodyLine.read ("@extends ".toList ++ parent)).hasRole role =
      (some .parent == some role) := by
  have hline : "@extends ".toList ++ parent = '@' :: ("extends".toList ++ ' ' :: parent) := rfl
  rw [hline]
  exact BodyLine.hasRole_of_word rfl rfl role

theorem hasRole_propertyLine (p : Property) (role : TagRole) :
    (BodyLine.read (propertyLine p)).hasRole role = false := by
  have hline : propertyLine p = '@' :: ("property".toList ++ (" ".toList ++
      withDescription (inBraces p.typeName ++ ' ' :: p.name) p.description)) := by
    rw [propertyLine, withDescription_eq_append, withDescription_eq_append (inBraces _ ++ _)]
    simp
  rw [hline]
  exact BodyLine.hasRole_of_word rfl rfl role

/-- A line of a comment, and whether it has been taken. -/
structure PoolLine where
  line : BodyLine
  taken : Bool
  deriving DecidableEq, Repr

/-- Whether a line can be taken for a role. -/
def PoolLine.waits (role : TagRole) (entry : PoolLine) : Bool :=
  !entry.taken && entry.line.hasRole role

/-- Takes the first line that can be taken for a role; none if there is no such
line. -/
def takeFirst? (role : TagRole) : List PoolLine → Option (List PoolLine)
  | [] => none
  | entry :: rest =>
      if entry.waits role then some ({ entry with taken := true } :: rest)
      else (takeFirst? role rest).map (entry :: ·)

/-- Takes lines of a role until there is none left to take.  The number counts
the lines taken. -/
inductive TakesAll (role : TagRole) : Nat → List PoolLine → List PoolLine → Prop
  | done {pool : List PoolLine} (hnone : takeFirst? role pool = none) :
      TakesAll role 0 pool pool
  | again {n : Nat} {pool next left : List PoolLine} (htake : takeFirst? role pool = some next)
      (hnext : TakesAll role n next left) : TakesAll role (n + 1) pool left

/-- A line after all lines of a role have been taken. -/
def PoolLine.afterTaking (role : TagRole) (entry : PoolLine) : PoolLine :=
  if entry.waits role then { entry with taken := true } else entry

theorem PoolLine.afterTaking_of_waits {role : TagRole} {entry : PoolLine}
    (h : entry.waits role = true) :
    entry.afterTaking role = { entry with taken := true } :=
  if_pos h

theorem PoolLine.afterTaking_of_not_waits {role : TagRole} {entry : PoolLine}
    (h : ¬ entry.waits role = true) : entry.afterTaking role = entry :=
  if_neg h

theorem PoolLine.not_waits_of_taken (role : TagRole) (line : BodyLine) :
    ¬ PoolLine.waits role ⟨line, true⟩ = true := by
  simp [PoolLine.waits]

theorem takeFirst?_eq_none_iff (role : TagRole) (pool : List PoolLine) :
    takeFirst? role pool = none ↔ pool.countP (PoolLine.waits role) = 0 := by
  induction pool with
  | nil => simp [takeFirst?]
  | cons entry rest ih =>
      by_cases hwaits : entry.waits role = true
      · simp [takeFirst?, hwaits]
      · simp [takeFirst?, hwaits, ih]

/-- Taking a line leaves one line less to take, and the same end. -/
theorem takeFirst?_eq_some {role : TagRole} {pool next : List PoolLine}
    (h : takeFirst? role pool = some next) :
    next.countP (PoolLine.waits role) + 1 = pool.countP (PoolLine.waits role) ∧
      next.map (PoolLine.afterTaking role) = pool.map (PoolLine.afterTaking role) := by
  induction pool generalizing next with
  | nil => simp [takeFirst?] at h
  | cons entry rest ih =>
      by_cases hwaits : entry.waits role = true
      · simp only [takeFirst?, hwaits, ↓reduceIte, Option.some.injEq] at h
        subst next
        have htaken := PoolLine.not_waits_of_taken role entry.line
        rw [List.countP_cons_of_neg htaken, List.countP_cons_of_pos hwaits, List.map_cons,
          List.map_cons, PoolLine.afterTaking_of_not_waits htaken,
          PoolLine.afterTaking_of_waits hwaits]
        exact ⟨rfl, rfl⟩
      · simp only [takeFirst?, hwaits, Bool.false_eq_true, ↓reduceIte] at h
        obtain ⟨later, hlater, rfl⟩ := Option.map_eq_some_iff.mp h
        obtain ⟨hcount, hend⟩ := ih hlater
        simp [hwaits, hcount, hend]

/-- Taking comes to an end, after as many lines as there are to take. -/
theorem takesAll_afterTaking (role : TagRole) {n : Nat} {pool : List PoolLine}
    (hcount : pool.countP (PoolLine.waits role) = n) :
    TakesAll role n pool (pool.map (PoolLine.afterTaking role)) := by
  induction n generalizing pool with
  | zero =>
      have hend : pool.map (PoolLine.afterTaking role) = pool.map id := by
        apply List.map_congr_left
        intro entry hentry
        exact PoolLine.afterTaking_of_not_waits (List.countP_eq_zero.mp hcount entry hentry)
      rw [hend, List.map_id]
      exact .done ((takeFirst?_eq_none_iff role pool).mpr hcount)
  | succ n ih =>
      rcases htake : takeFirst? role pool with _ | next
      · rw [takeFirst?_eq_none_iff] at htake
        omega
      · obtain ⟨hless, hend⟩ := takeFirst?_eq_some htake
        rw [← hend]
        exact .again htake (ih (by omega))

def freshPool (body : List Text) : List PoolLine :=
  body.map fun line => ⟨BodyLine.read line, false⟩

/-- The texts of the lines that have not been taken. -/
def textsLeft (pool : List PoolLine) : List Text :=
  (pool.filter fun entry => !entry.taken).map fun entry => entry.line.text

theorem takesAll_freshPool (role : TagRole) (body : List Text) :
    TakesAll role (linesReadAs role body).length (freshPool body)
      ((freshPool body).map (PoolLine.afterTaking role)) := by
  apply takesAll_afterTaking
  rw [freshPool, List.countP_map, linesReadAs, ← List.countP_eq_length_filter]
  rfl

theorem textsLeft_afterTaking (role : TagRole) (body : List Text) :
    textsLeft ((freshPool body).map (PoolLine.afterTaking role)) =
      body.filter fun line => !(BodyLine.read line).hasRole role := by
  induction body with
  | nil => rfl
  | cons line rest ih =>
      by_cases hrole : (BodyLine.read line).hasRole role = true
      · have hwaits : PoolLine.waits role ⟨BodyLine.read line, false⟩ = true := hrole
        rw [List.filter_cons_of_neg (by simp [hrole]), ← ih]
        simp [freshPool, textsLeft, PoolLine.afterTaking_of_waits hwaits]
      · have hwaits : ¬ PoolLine.waits role ⟨BodyLine.read line, false⟩ = true := hrole
        rw [List.filter_cons_of_pos (by simp [hrole]), ← ih]
        simp [freshPool, textsLeft, PoolLine.afterTaking_of_not_waits hwaits]
        rfl

/-- The lines of a class's block, part by part. -/
theorem documentClass_lines (options : Options) (moduleName scope : Option Text)
    (s : ClassShape) (body : List Text) :
    (documentClass options moduleName scope s body).lines =
      (body.filter fun line => !(BodyLine.read line).hasRole .parent) ++
        ((s.parent.bind Text.given?).map ("@extends ".toList ++ ·)).toList ++
        (memberLine? moduleName scope).toList ++
        (s.properties.filter fun p => !isPrivate options p.name p.visibility).map
          propertyLine := by
  let groups : TagGroups :=
    [(.text, body.filter fun line => !(BodyLine.read line).hasRole .parent),
      (.parent, ((s.parent.bind Text.given?).map ("@extends ".toList ++ ·)).toList),
      (.memberOf, (memberLine? moduleName scope).toList),
      (.property, (s.properties.filter fun p => !isPrivate options p.name p.visibility).map
        propertyLine)]
  have hlines := @DocBlock.lines_ofEntries_groups groups (by simp [groups])
  simpa only [groups, documentClass, memberEntries, List.flatMap_cons, List.flatMap_nil,
    Option.toList_map, List.map_map, Function.comp_def, List.append_nil, List.append_assoc]
    using hlines

/-- The author's lines that stay as text are no return lines. -/
theorem linesReadAs_keptAsText (parameters : List Parameter) (body : List Text) :
    linesReadAs .returns (body.filter fun line =>
      keptAsText parameters (BodyLine.read line)) = [] := by
  apply linesReadAs_eq_nil
  intro line hline
  have hkept := (List.mem_filter.mp hline).2
  rcases (BodyLine.read line).shape parameters with ⟨-, hreturns, -⟩ | ⟨-, -, -, hdropped, -⟩ |
    ⟨-, hreturns, -⟩
  · exact hreturns
  · simp [hdropped] at hkept
  · exact hreturns

theorem linesReadAs_documentCallable (options : Options) (moduleName scope : Option Text)
    (s : Signature) (body : List Text) :
    let block := (documentCallable options moduleName scope s body).block
    linesReadAs .returns block.lines = block.get .returns := by
  intro block
  obtain ⟨line, hline⟩ : ∃ line, block.get .returns = [line] :=
    ⟨_, documentCallable_get_returns options moduleName scope s body⟩
  have hparams : linesReadAs .returns (block.get .param) = [] := by
    apply linesReadAs_eq_nil
    rw [documentCallable_get_param]
    intro other hother
    obtain ⟨index, hindex, rfl⟩ := List.mem_mapIdx.mp hother
    exact hasRole_paramLine _ _ _
  have hreturns : linesReadAs .returns (block.get .returns) = block.get .returns := by
    apply linesReadAs_eq_self
    rw [documentCallable_get_returns]
    intro other hother
    rw [List.mem_singleton.mp hother]
    exact hasRole_returnLine _ _ _
  have hmarks : linesReadAs .returns
      ((markEntries options moduleName scope s).map Prod.snd) = [] := by
    apply linesReadAs_eq_nil
    intro other hother
    obtain ⟨entry, hentry, rfl⟩ := List.mem_map.mp hother
    simp [BodyLine.hasRole, BodyLine.read, parse?_markEntries hentry]
  have hlines := (documentCallable_lines_perm options moduleName scope s body).filter
    fun line => (BodyLine.read line).hasRole .returns
  change (linesReadAs .returns block.lines).Perm (linesReadAs .returns _) at hlines
  rw [linesReadAs_append, linesReadAs_append, linesReadAs_append, documentCallable_get_text,
    linesReadAs_keptAsText, hparams, hreturns, hmarks, hline] at hlines
  rw [hline]
  exact List.perm_singleton.mp hlines

theorem linesReadAs_documentClass (options : Options) (moduleName scope : Option Text)
    (s : ClassShape) (body : List Text) :
    linesReadAs .parent (documentClass options moduleName scope s body).lines =
      ((s.parent.bind Text.given?).map ("@extends ".toList ++ ·)).toList := by
  have htext : linesReadAs .parent
      (body.filter fun line => !(BodyLine.read line).hasRole .parent) = [] := by
    apply linesReadAs_eq_nil
    intro line hline
    simpa using (List.mem_filter.mp hline).2
  have hparent : linesReadAs .parent
      ((s.parent.bind Text.given?).map ("@extends ".toList ++ ·)).toList =
        ((s.parent.bind Text.given?).map ("@extends ".toList ++ ·)).toList := by
    apply linesReadAs_eq_self
    intro line hline
    obtain ⟨parent, -, rfl⟩ := Option.map_eq_some_iff.mp (Option.mem_toList.mp hline)
    exact hasRole_parentLine parent .parent
  have hmember : linesReadAs .parent (memberLine? moduleName scope).toList = [] := by
    apply linesReadAs_eq_nil
    intro line hline
    simp [BodyLine.hasRole, BodyLine.read, parse?_memberLine? (Option.mem_toList.mp hline)]
  have hproperties : linesReadAs .parent ((s.properties.filter fun p =>
      !isPrivate options p.name p.visibility).map propertyLine) = [] := by
    apply linesReadAs_eq_nil
    intro line hline
    obtain ⟨p, -, rfl⟩ := List.mem_map.mp hline
    exact hasRole_propertyLine p .parent
  rw [documentClass_lines, linesReadAs_append, linesReadAs_append, linesReadAs_append, htext,
    hparent, hmember, hproperties, List.nil_append, List.append_nil, List.append_nil]

theorem documentClass_get_text (options : Options) (moduleName scope : Option Text)
    (s : ClassShape) (body : List Text) :
    (documentClass options moduleName scope s body).get .text =
      body.filter fun line => !(BodyLine.read line).hasRole .parent := by
  rw [documentClass, DocBlock.get_ofEntries]
  simp (disch := decide) only [linesUnder_append, linesUnder_map, linesUnder_parentEntry,
    linesUnder_propertyLines, linesUnder_memberEntries, ↓reduceIte, List.append_nil]

/-- One line of a callable's block is read as its return line, and one line of a
class's block as naming its parent, if it has one.  Taking out the author's
parent lines ends after as many rounds as there are such lines. -/
theorem documentCallable_documentClass_single_tags (options : Options)
    (moduleName scope : Option Text) :
    (∀ (s : Signature) (body : List Text) (span : Span) (subject : Option Text)
      (sink : Option (List Diagnostic)),
      let block := (documentCallableInto options moduleName scope s body span subject sink).1
      ∃ line, block.get .returns = [line] ∧ linesReadAs .returns block.lines = [line]) ∧
    ∀ (s : ClassShape) (body : List Text),
      let block := documentClass options moduleName scope s body
      linesReadAs .parent block.lines =
          ((s.parent.bind Text.given?).map ("@extends ".toList ++ ·)).toList ∧
        ∃ left, TakesAll .parent (linesReadAs .parent body).length (freshPool body) left ∧
          block.get .text = textsLeft left := by
  constructor
  · intro s body span subject sink
    have hreturns := documentCallable_get_returns options moduleName scope s body
    have hread := linesReadAs_documentCallable options moduleName scope s body
    exact ⟨_, hreturns, hread.trans hreturns⟩
  · intro s body
    refine ⟨linesReadAs_documentClass options moduleName scope s body, _,
      takesAll_freshPool .parent body, ?_⟩
    rw [textsLeft_afterTaking, documentClass_get_text]

end DocWeave
