/-
Classes as they are written.  The block of a class has the author's lines, the
parent, the membership and the fields that may be seen; between the two lines
that open and close the class stand its methods, each with a block of its own.
Fields, methods and the comments that document them come from one body, where
they may be mixed in any way with each other and with what is not written.
-/
import DocWeave.Proofs.Emission.Memberships
import DocWeave.Proofs.Reconcile.SingleTags

namespace DocWeave

/-- Whether a field stays out of the docs, by its declaration or by its name. -/
def Field.IsHidden (options : Options) (f : Field) : Prop :=
  f.access = some .privateAccess ∨ (options.privateStart ≠ [] ∧ options.privateStart <+: f.name)

instance (options : Options) (f : Field) : Decidable (f.IsHidden options) :=
  inferInstanceAs (Decidable (_ ∨ _))

/-- The line of a field in a class with some comments.  Its description is the
comment that documents it, on one line and without its empty lines. -/
def Field.docLine (options : Options) (comments : List Comment) (f : Field) : Text :=
  let description := formatDescription ([' '].intercalate
    ((docBody options (findDoc comments f.anchor)).filter fun line => !line.isEmpty))
  "@property \x7b".toList ++ f.type.typeName options.untyped ++ "\x7d ".toList ++ f.name ++
    if description = [] then [] else ' ' :: description

/-- What is written for a method of a class with some comments: a block and a
signature.  The constructor has a mark in its block and a spelling of its own. -/
structure Callable.WrittenAs (ctx : Context) (comments : List Comment) (m : Callable)
    (written : DocBlock × Text) : Prop where
  block_eq : written.1 = (ctx.callableDoc .classBody ⟨m, findDoc comments m.anchor⟩).block
  signature_eq : written.2 =
    (if m.name.lower = ctx.options.constructorName.lower then ctx.options.constructorSpelling
      else m.name) ++
      "(".toList ++ ", ".toList.intercalate (m.params.map Param.name) ++ ") \x7b \x7d;\n".toList
  /-- There is one line for each parameter of the signature, in its order. -/
  params : List.Forall₂ (fun p line => ∃ tag, line = paramLine (.of ctx.options ctx.lines p) tag)
    m.params (written.1.get .param)
  constructor_eq : written.1.get .constructor =
    if m.name.lower = ctx.options.constructorName.lower then ["@constructor".toList] else []
  /-- A method is a member of its class only. -/
  memberOf_eq : written.1.get .memberOf = []

/-- The parts of a written class. -/
structure ClassText where
  block : DocBlock
  parent : Option Text
  /-- The block and the signature of each method. -/
  methods : List (DocBlock × Text)
  deriving DecidableEq, Repr

def classOpening (name : Text) : Option Text → Text
  | none => "class ".toList ++ name ++ " \x7b\n".toList
  | some parent => "class ".toList ++ name ++ " extends ".toList ++ parent ++ " \x7b\n".toList

/-- The text of a class in a scope. -/
def ClassText.text (scope : Option Text) (name : Text) (t : ClassText) : Text :=
  Text.unlines
    ([t.block.render, classOpening name t.parent] ++
      t.methods.flatMap (fun m => [m.1.render, m.2]) ++ ["\x7d\n".toList] ++
      ((scope.bind Text.given?).map
        fun outer => outer ++ ".".toList ++ name ++ " = ".toList ++ name ++ ";".toList).toList)

/-- The parts of a written class are those of its declaration.  Its block has the
author's lines that name no parent, its own parent, the membership and the fields
that are not hidden; fields and methods come in the order of the body. -/
structure ClassText.Documents (ctx : Context) (scope : Option Text) (head : ClassHead)
    (doc : Option Comment) (body : List Stmt) (t : ClassText) : Prop where
  parent_iff : ∀ name, t.parent = some name ↔ head.parent.map Text.strip = some name ∧ name ≠ []
  lines_eq : t.block.lines =
    ((docBody ctx.options doc).filter fun line => !(BodyLine.read line).hasRole .parent) ++
      (t.parent.map ("@extends ".toList ++ ·)).toList ++
      (memberLine? ctx.moduleName scope).toList ++
      ((body.filterMap Stmt.field?).filter fun f => ¬ f.IsHidden ctx.options).map
        (Field.docLine ctx.options (commentsOf body))
  methods : List.Forall₂ (Callable.WrittenAs ctx (commentsOf body))
    (body.filterMap Stmt.method?) t.methods

theorem ClassHead.parentName?_eq_some_iff (head : ClassHead) (name : Text) :
    head.parentName? = some name ↔ head.parent.map Text.strip = some name ∧ name ≠ [] := by
  rw [ClassHead.parentName?]
  cases head.parent with
  | none => simp
  | some parent => simp [Text.given?_eq_some_iff]

theorem ClassHead.parentName?_bind_given? (head : ClassHead) :
    head.parentName?.bind Text.given? = head.parentName? := by
  rcases hparent : head.parentName? with _ | name
  · rfl
  · obtain ⟨-, hname⟩ := (head.parentName?_eq_some_iff name).mp hparent
    exact (Text.given?_eq_some_iff name name).mpr ⟨rfl, hname⟩

theorem Field.isPrivate_iff (options : Options) (f : Field) :
    isPrivate options f.name (shownVisibility f.access) = true ↔ f.IsHidden options := by
  have hshown : shownVisibility f.access = .privateAccess ↔ f.access = some .privateAccess := by
    unfold shownVisibility
    split <;> simp_all
  simp [isPrivate, Options.isPrivateName, Field.IsHidden, hshown, or_comm]

theorem withDescription_eq_ite (head description : Text) :
    withDescription head description =
      head ++ if formatDescription description = [] then []
        else ' ' :: formatDescription description := by
  unfold withDescription
  cases formatDescription description with
  | nil => rw [if_pos rfl, List.append_nil]
  | cons c rest => rw [if_neg (List.cons_ne_nil c rest)]

theorem Field.propertyLine_eq (options : Options) (comments : List Comment) (f : Field) :
    propertyLine (.of options ⟨f, findDoc comments f.anchor⟩) = f.docLine options comments := by
  have hhead : "@property ".toList ++ inBraces (f.type.typeName options.untyped) ++
      ' ' :: f.name =
        "@property \x7b".toList ++ f.type.typeName options.untyped ++ "\x7d ".toList ++ f.name := by
    simp [inBraces]
  unfold propertyLine Field.docLine
  simp only [Property.of]
  rw [withDescription_eq_ite, hhead]

/-- The properties that are shown are the fields that are not hidden. -/
theorem shownProperties_eq (options : Options) (comments : List Comment) (fields : List Field) :
    (((fields.map fun f => Property.of options ⟨f, findDoc comments f.anchor⟩).filter fun p =>
        !isPrivate options p.name p.visibility).map propertyLine) =
      (fields.filter fun f => ¬ f.IsHidden options).map (Field.docLine options comments) := by
  rw [List.filter_map, List.map_map]
  have hkept : ∀ f : Field, ((fun p : Property => !isPrivate options p.name p.visibility) ∘
      fun f => Property.of options ⟨f, findDoc comments f.anchor⟩) f =
        decide (¬ f.IsHidden options) := by
    intro f
    rw [decide_not, ← decide_eq_decide.mpr (f.isPrivate_iff options), Bool.decide_coe]
    rfl
  rw [List.filter_congr fun f _ => hkept f]
  exact List.map_congr_left fun f _ => f.propertyLine_eq options comments

theorem Context.classBlock_lines (ctx : Context) (scope : Option Text)
    (head : Documented ClassHead) (body : List Stmt) :
    (ctx.classBlock scope (.of head body)).lines =
      ((docBody ctx.options head.doc).filter fun line =>
          !(BodyLine.read line).hasRole .parent) ++
        (head.decl.parentName?.map ("@extends ".toList ++ ·)).toList ++
        (memberLine? ctx.moduleName scope).toList ++
        ((body.filterMap Stmt.field?).filter fun f => ¬ f.IsHidden ctx.options).map
          (Field.docLine ctx.options (commentsOf body)) := by
  rw [Context.classBlock, documentClass_lines, ← shownProperties_eq]
  simp only [ClassShape.of, ClassEntry.of, ClassHead.parentName?_bind_given?, List.map_map,
    Function.comp_def]

theorem Options.isConstructor_iff (options : Options) (name : Text) :
    options.isConstructor name = true ↔ name.lower = options.constructorName.lower :=
  beq_iff_eq

theorem documentCallable_get_constructor (options : Options) (moduleName scope : Option Text)
    {s : Signature} {overrides : Bool} (hrole : s.role = .method overrides) (body : List Text) :
    (documentCallable options moduleName scope s body).block.get .constructor =
      if s.name.lower = options.constructorName.lower then ["@constructor".toList] else [] := by
  simp (disch := decide) only [documentCallable, DocBlock.get_ofEntries,
    linesUnder_append, linesUnder_map, linesUnder_accessEntries, linesUnder_memberEntries,
    linesUnder_cons, linesUnder_nil, roleEntries, hrole, ← Options.isConstructor_iff]
  cases overrides <;> cases options.isConstructor s.name <;> simp

theorem Callable.stub_text {m : Callable} {overrides : Bool} (hrole : m.role = .method overrides)
    (options : Options) :
    (m.stub options).text =
      (if m.name.lower = options.constructorName.lower then options.constructorSpelling
        else m.name) ++
        "(".toList ++ ", ".toList.intercalate (m.params.map Param.name) ++
        ") \x7b \x7d;\n".toList := by
  have hstub : m.stub options = .method (if options.isConstructor m.name then
      options.constructorSpelling else m.name) (m.params.map Param.name) := by
    simp only [Callable.stub, hrole]
  have hopen : ∀ a b : Text, a ++ '(' :: b = a ++ "(".toList ++ b := fun a b => by simp
  rw [hstub, if_congr (options.isConstructor_iff m.name) rfl rfl]
  change stubText _ _ = _
  rw [stubText, hopen]

/-- Each parameter has a line of its own, whatever lines are there to claim. -/
theorem claimParams_forall₂ (parameters : List Parameter) (pool : List BodyLine) :
    List.Forall₂ (fun p line => ∃ tag, line = paramLine p tag) parameters
      (claimParams parameters pool).1 := by
  induction parameters generalizing pool with
  | nil => exact .nil
  | cons p rest ih => exact .cons ⟨_, rfl⟩ (ih _)

def Context.methodText (ctx : Context) (comments : List Comment) (m : Callable) :
    DocBlock × Text :=
  ((ctx.callableDoc .classBody ⟨m, findDoc comments m.anchor⟩).block,
    (m.stub ctx.options).text)

theorem Callable.writtenAs_methodText (ctx : Context) (comments : List Comment) {m : Callable}
    (hmethod : m.isMethod = true) : m.WrittenAs ctx comments (ctx.methodText comments m) := by
  obtain ⟨overrides, hrole⟩ : ∃ overrides, m.role = .method overrides := by
    unfold Callable.isMethod at hmethod
    split at hmethod
    · cases hmethod
    · exact ⟨_, ‹_›⟩
  refine ⟨rfl, Callable.stub_text hrole ctx.options, ?_,
    documentCallable_get_constructor ctx.options none none hrole _,
    documentCallable_get_memberOf ctx.options none none _ _⟩
  obtain ⟨-, hparam, -⟩ := documentCallable_get ctx.options none none
    (.of ctx.options ctx.lines m) (docBody ctx.options (findDoc comments m.anchor))
  rw [Context.methodText, Context.callableDoc, Home.membership, hparam]
  exact List.forall₂_map_left_iff.mp (claimParams_forall₂ _ _)

theorem Stmt.isMethod_of_method? {stmt : Stmt} {m : Callable} (h : stmt.method? = some m) :
    m.isMethod = true := by
  unfold Stmt.method? at h
  split at h
  · split at h
    · rwa [← Option.some.inj h]
    · cases h
  · cases h

def Context.classText (ctx : Context) (scope : Option Text) (head : Documented ClassHead)
    (body : List Stmt) : ClassText where
  block := ctx.classBlock scope (.of head body)
  parent := head.decl.parentName?
  methods := (body.filterMap Stmt.method?).map (ctx.methodText (commentsOf body))

theorem Context.classText_documents (ctx : Context) (scope : Option Text) (head : ClassHead)
    (doc : Option Comment) (body : List Stmt) :
    (ctx.classText scope ⟨head, doc⟩ body).Documents ctx scope head doc body := by
  refine ⟨head.parentName?_eq_some_iff, ctx.classBlock_lines scope ⟨head, doc⟩ body, ?_⟩
  apply List.forall₂_map_right_iff.mpr
  apply List.forall₂_same.mpr
  intro m hm
  obtain ⟨stmt, -, hstmt⟩ := List.mem_filterMap.mp hm
  exact m.writtenAs_methodText ctx _ (Stmt.isMethod_of_method? hstmt)

theorem Segment.text_classStart (name : Text) (parent : Option Text) :
    (Segment.classStart name parent).text = classOpening name parent := by
  cases parent <;> rfl

theorem map_text_memberSegments (scope : Option Text) (name : Text) :
    (memberSegments scope name).map Segment.text =
      ((scope.bind Text.given?).map
        fun outer => outer ++ ".".toList ++ name ++ " = ".toList ++ name ++ ";".toList).toList := by
  rw [memberSegments]
  cases scope.bind Text.given? with
  | none => rfl
  | some outer =>
      have hdot : outer ++ '.' :: name = outer ++ ".".toList ++ name := by simp
      exact congrArg (fun t => [t ++ " = ".toList ++ name ++ ";".toList]) hdot

theorem Context.segmentsText_classSegments (ctx : Context) (scope : Option Text)
    (head : Documented ClassHead) (body : List Stmt) :
    segmentsText (ctx.classSegments scope (.of head body) ++
        memberSegments scope head.decl.name) =
      (ctx.classText scope head body).text scope head.decl.name := by
  have hmethods : ((ctx.methodDocs (.of head body)).flatMap
      fun m => [.block m.1, m.2.stub ctx.options]).map Segment.text =
        (ctx.classText scope head body).methods.flatMap fun m => [m.1.render, m.2] := by
    simp only [Context.methodDocs, Context.classText, ClassEntry.of, List.map_map,
      List.flatMap_map, List.map_flatMap]
    rfl
  rw [segmentsText, ClassText.text, Context.classSegments, List.map_append, List.map_append,
    List.map_cons, List.map_cons, hmethods, map_text_memberSegments, Segment.text_classStart]
  rfl

/-- A class whose body has known kinds is written to its end, and what is written
is its block, its methods and its membership, as they are declared. -/
theorem exists_classText_emit (ctx : Context) (created : List Text) (scope : Option Text)
    (head : ClassHead) (doc : Option Comment) (body : List Stmt)
    (hknown : ∀ stmt ∈ body, stmt.unknownKind? = none) :
    ∃ t : ClassText, t.Documents ctx scope head doc body ∧
      (emit ctx created (classSteps scope ⟨head, doc⟩ body)).text =
        .ok (t.text scope head.name) := by
  refine ⟨ctx.classText scope ⟨head, doc⟩ body, ctx.classText_documents scope head doc body, ?_⟩
  have hhandled := firstUnhandled?_eq_none_iff.mpr hknown
  have hsteps : classSteps scope ⟨head, doc⟩ body =
      (ClassEntry.of ⟨head, doc⟩ body).steps scope := by
    rw [classSteps, classEntry, hhandled, Entry.steps]
  have hfailure : (emit ctx created ((ClassEntry.of ⟨head, doc⟩ body).steps scope)).failure =
      none := by
    rw [emit_failure_eq_none_iff]
    simp [ClassEntry.steps]
  rw [hsteps, Emission.text_of_success hfailure, ClassEntry.emit_segments]
  exact congrArg Except.ok (ctx.segmentsText_classSegments scope ⟨head, doc⟩ body)

namespace ClassTextWitness

def hero : ClassHead :=
  { name := "Hero".toList, range := .ofLines 3 (some 17), parent := some " Character ".toList }

def doc : Comment := ⟨.ofLines 1 (some 2), "' A hero.\n' @extends Sprite".toList⟩

/-- Fields before and behind the methods, two of them hidden, and a function that
is no method. -/
def body : List Stmt :=
  [.field { name := "_hp".toList, range := .ofLines 4 none },
    .comment ⟨.ofLines 5 none, "' @param dx across".toList⟩,
    .callable { name := "move".toList, range := .ofLines 6 none, role := .method true
                params := [{ name := "dx".toList }, { name := "dy".toList }] },
    .comment ⟨.ofLines 8 (some 9), "' display\n' name".toList⟩,
    .field { name := "name".toList, range := .ofLines 10 none, type := .builtin .string },
    .callable { name := "helper".toList, range := .ofLines 11 none },
    .callable { name := "New".toList, range := .ofLines 12 none, role := .method false },
    .field { name := "bag".toList, range := .ofLines 14 none, access := some .privateAccess }]

def ctx : Context := { moduleName := some "game".toList }

def written : Emission :=
  emit ctx [] (classSteps (some "Cast".toList) ⟨hero, some doc⟩ body)

end ClassTextWitness

theorem exists_classText_emit_hero :
    (∃ t : ClassText,
      t.Documents ClassTextWitness.ctx (some "Cast".toList) ClassTextWitness.hero
          (some ClassTextWitness.doc) ClassTextWitness.body ∧
        ClassTextWitness.written.text = .ok (t.text (some "Cast".toList) "Hero".toList)) ∧
      segmentsText ClassTextWitness.written.segments =
        Text.unlines (List.map String.toList
          ["/**", " * A hero.", " * @extends Character", " * @memberof module:Cast",
            " * @property \x7bstring\x7d name - display name", " */",
            "class Hero extends Character \x7b", "",
            "/**", " * @param \x7bdynamic\x7d dx - across", " * @param \x7bdynamic\x7d dy",
            " * @return \x7bdynamic\x7d", " * @override", " */", "move(dx, dy) \x7b \x7d;", "",
            "/**", " * @return \x7bdynamic\x7d", " * @constructor", " */",
            "constructor() \x7b \x7d;", "", "\x7d", "", "Cast.Hero = Hero;"]) :=
  ⟨exists_classText_emit ClassTextWitness.ctx [] (some "Cast".toList) ClassTextWitness.hero
      (some ClassTextWitness.doc) ClassTextWitness.body (by decide),
    by decide +kernel⟩

end DocWeave
