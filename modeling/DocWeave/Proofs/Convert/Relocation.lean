/-
Files with blank lines put in front.  When a parser sees the same statements as
many lines further down, the file is converted to the same text under the same
module name.  Remarks are made as before and in the same order, each about the
place its callable has now.
-/
import DocWeave.Convert
import DocWeave.Proofs.Emission.Run
import DocWeave.Proofs.Outline.Shift
import Mathlib.Data.List.Forall2

namespace DocWeave

/-- The source with blank lines in front. -/
def movedDown (k : Nat) (source : Text) : Text :=
  List.replicate k '\n' ++ source

/-- The file that is being written, with blank lines in front. -/
def Context.shift (k : Nat) (ctx : Context) : Context :=
  { ctx with lines := List.replicate k [] ++ ctx.lines }

/-- A span further down. -/
def Span.shift (k : Nat) (span : Span) : Span :=
  { span with line := span.line.map (· + k), endLine := span.endLine.map (· + k) }

/-- Whether every default of a callable starts at a line a file can have. -/
def Callable.DefaultsOnLines (c : Callable) : Prop :=
  ∀ p ∈ c.params, ∀ range ∈ p.default, 1 ≤ range.start.line

instance (c : Callable) : Decidable c.DefaultsOnLines :=
  inferInstanceAs (Decidable (∀ p ∈ c.params, ∀ range ∈ p.default, 1 ≤ range.start.line))

/-- A remark on a callable, and the same remark on the callable further down. -/
def RemarkMoved (k : Nat) (file : Option Text) (c : Callable) (d d' : Diagnostic) : Prop :=
  d.span = .ofRange (some c.range) file ∧ d.notes = [c.describe] ∧
    d' = { d with span := d.span.shift k, notes := [(c.shift k).describe] }

/-- Two emissions that are the same but for their remarks, which are related
one by one. -/
structure Emission.AgreesUpTo (related : Diagnostic → Diagnostic → Prop) (e e' : Emission) :
    Prop where
  segments : e'.segments = e.segments
  created : e'.created = e.created
  failure : e'.failure = e.failure
  diagnostics : List.Forall₂ related e.diagnostics e'.diagnostics

variable {k : Nat}

theorem movedDown_succ (source : Text) :
    movedDown (k + 1) source = '\n' :: movedDown k source := rfl

@[simp] theorem Context.shift_moduleName (ctx : Context) :
    (ctx.shift k).moduleName = ctx.moduleName := rfl

@[simp] theorem Context.shift_lines (ctx : Context) :
    (ctx.shift k).lines = List.replicate k [] ++ ctx.lines := rfl

@[simp] theorem Context.shift_options (ctx : Context) : (ctx.shift k).options = ctx.options := rfl

theorem SourceRange.fits_shift {range : SourceRange} (hstart : 1 ≤ range.start.line)
    (lines : List Text) :
    (range.shift k).Fits (List.replicate k [] ++ lines) ↔ range.Fits lines := by
  simp only [SourceRange.Fits, SourceRange.shift, Position.shift, List.length_append,
    List.length_replicate]
  omega

/-- Blank lines in front do not change what a range covers. -/
theorem SourceRange.slice_shift {range : SourceRange} (hstart : 1 ≤ range.start.line)
    (lines : List Text) :
    (range.shift k).slice (List.replicate k [] ++ lines) = range.slice lines := by
  by_cases hfits : range.Fits lines
  · have hstop : (range.shift k).stop.line.toNat = k + range.stop.line.toNat := by
      simp only [SourceRange.shift, Position.shift]
      have := hfits.2.1
      omega
    have hfirst : (range.shift k).start.line.toNat - 1 = k + (range.start.line.toNat - 1) := by
      simp only [SourceRange.shift, Position.shift]
      omega
    have hcut : ((List.replicate k [] ++ lines).take (k + range.stop.line.toNat)).drop
        (k + (range.start.line.toNat - 1)) =
          (lines.take range.stop.line.toNat).drop (range.start.line.toNat - 1) := by
      rw [← List.drop_drop]
      simp [List.take_append]
    rw [SourceRange.slice, if_pos ((fits_shift hstart lines).mpr hfits), SourceRange.slice,
      if_pos hfits, hstop, hfirst, hcut]
    rfl
  · rw [slice_of_not_fits hfits, slice_of_not_fits (mt (fits_shift hstart lines).mp hfits)]

theorem Signature.of_shift (options : Options) (lines : List Text) {c : Callable}
    (hc : c.DefaultsOnLines) :
    Signature.of options (List.replicate k [] ++ lines) (c.shift k) =
      Signature.of options lines c := by
  have hparameters : (c.shift k).params.map
      (Parameter.of options (List.replicate k [] ++ lines)) =
        c.params.map (Parameter.of options lines) := by
    change (c.params.map (Param.shift k)).map _ = _
    rw [List.map_map]
    apply List.map_congr_left
    intro p hp
    have hdefault := hc p hp
    obtain ⟨name, type, default, range⟩ := p
    cases default with
    | none => rfl
    | some default =>
        have hslice := SourceRange.slice_shift (k := k) (hdefault default rfl) lines
        simp only [Function.comp_apply, Parameter.of, Param.shift, Option.map_some, hslice]
  exact congrArg (fun parameters => Signature.mk c.name (shownVisibility c.access) parameters
    (c.returns.typeName options.untyped) c.role) hparameters

theorem docBody_shift (options : Options) (doc : Option Comment) :
    docBody options (doc.map (Comment.shift k)) = docBody options doc := by
  cases doc <;> rfl

theorem Context.callableDoc_shift (ctx : Context) (home : Home) {c : Documented Callable}
    (hc : c.decl.DefaultsOnLines) :
    (ctx.shift k).callableDoc home (c.shift k (Callable.shift k)) = ctx.callableDoc home c := by
  have hsignature := Signature.of_shift (k := k) ctx.options ctx.lines hc
  have hbody := docBody_shift (k := k) ctx.options c.doc
  simp only [Context.callableDoc, Documented.shift, Context.shift_moduleName,
    Context.shift_lines, Context.shift_options, hsignature, hbody]

theorem Callable.describe_ne_nil (c : Callable) : c.describe ≠ [] := by
  simp [Callable.describe, describeAs]

/-- A step further down writes what it wrote. -/
theorem Step.segments_shift (ctx : Context) (created : List Text) {step : Step}
    (hstep : ∀ home c, step = .callable home c → c.decl.DefaultsOnLines) :
    (step.shift k).segments (ctx.shift k) created = step.segments ctx created := by
  cases step with
  | callable home c =>
      have hdoc := ctx.callableDoc_shift (k := k) home (hstep home c rfl)
      have hstub : (c.decl.shift k).stub ctx.options = c.decl.stub ctx.options := by
        simp only [Callable.stub, Callable.shift, List.map_map]
        rfl
      simp only [Step.shift, Step.segments, hdoc]
      exact congrArg (fun stub => Segment.block (ctx.callableDoc home c).block :: stub ::
        memberSegments (home.membership ctx.moduleName).2 c.decl.name) hstub
  | classStart scope c =>
      have hproperties : (c.shift k).fields.map (Property.of ctx.options) =
          c.fields.map (Property.of ctx.options) := by
        change (c.fields.map _).map _ = _
        rw [List.map_map]
        apply List.map_congr_left
        intro f _
        simp only [Function.comp_apply, Property.of, Documented.shift, docBody_shift]
        rfl
      have hbody : docBody ctx.options (c.shift k).head.doc = docBody ctx.options c.head.doc :=
        docBody_shift ctx.options c.head.doc
      simp only [Step.shift, Step.segments, ClassShape.of, documentClass, Context.shift_options,
        Context.shift_moduleName, hproperties, hbody]
      rfl
  | openNamespace qualified doc =>
      have hcontainer : (ctx.shift k).containerSegments qualified (doc.map (Comment.shift k)) =
          ctx.containerSegments qualified doc := by
        funext name
        simp only [Context.containerSegments, Context.shift_options, Context.shift_moduleName,
          docBody_shift]
      simp only [Step.shift, Step.segments, hcontainer]
  | _ => rfl

theorem Step.opened_shift (created : List Text) (step : Step) :
    (step.shift k).opened created = step.opened created := by
  cases step <;> rfl

/-- A step further down remarks what it remarked, about where it is now. -/
theorem Step.diagnostics_shift (ctx : Context) {step : Step}
    (hstep : ∀ home c, step = .callable home c → c.decl.DefaultsOnLines) :
    List.Forall₂
      (fun d d' => ∃ home c, step = .callable home c ∧ RemarkMoved k ctx.file c.decl d d')
      (step.diagnostics ctx) ((step.shift k).diagnostics (ctx.shift k)) := by
  cases step with
  | callable home c =>
      have hdoc := ctx.callableDoc_shift (k := k) home (hstep home c rfl)
      simp only [Step.shift, Step.diagnostics, hdoc, List.forall₂_map_left_iff,
        List.forall₂_map_right_iff, List.forall₂_same]
      intro warning _
      have hnote : ∀ c : Callable, ((some c.describe).bind Text.given?).toList = [c.describe] := by
        intro c
        rw [Option.bind_some, (Text.given?_eq_some_iff _ _).mpr ⟨rfl, c.describe_ne_nil⟩]
        rfl
      refine ⟨home, c, rfl, rfl, hnote c.decl, ?_⟩
      simp only [TagWarning.diagnostic, hnote]
      rfl
  | _ => exact List.Forall₂.nil

/-- Steps further down are written as they were, with their remarks moved. -/
theorem emit_shift (ctx : Context) (created : List Text) {steps : List Step}
    (hsteps : ∀ home c, .callable home c ∈ steps → c.decl.DefaultsOnLines) :
    (emit ctx created steps).AgreesUpTo
      (fun d d' => ∃ home c, .callable home c ∈ steps ∧ RemarkMoved k ctx.file c.decl d d')
      (emit (ctx.shift k) created (steps.map (Step.shift k))) := by
  induction steps generalizing created with
  | nil => exact ⟨rfl, rfl, rfl, .nil⟩
  | cons step rest ih =>
      rcases step.handled_or_unhandled with ⟨e, rfl⟩ | hhandled
      · exact ⟨rfl, rfl, rfl, .nil⟩
      · have hshifted : ∀ e, step.shift k ≠ .unhandled e := by
          intro e
          cases step with
          | unhandled e' => exact absurd rfl (hhandled e')
          | _ => exact nofun
        have hstep : ∀ home c, step = .callable home c → c.decl.DefaultsOnLines := by
          rintro home c rfl
          exact hsteps home c List.mem_cons_self
        have hlater := ih (created ++ step.opened created) fun home c hc =>
          hsteps home c (List.mem_cons_of_mem step hc)
        rw [List.map_cons, emit_cons ctx created hhandled, emit_cons _ created hshifted,
          Step.opened_shift]
        refine ⟨?_, hlater.created, hlater.failure, ?_⟩
        · exact congrArg₂ _ (Step.segments_shift ctx created hstep) hlater.segments
        · apply List.rel_append
          · apply (Step.diagnostics_shift ctx hstep).imp
            rintro d d' ⟨home, c, rfl, hmoved⟩
            exact ⟨home, c, List.mem_cons_self, hmoved⟩
          · apply hlater.diagnostics.imp
            rintro d d' ⟨home, c, hc, hmoved⟩
            exact ⟨home, c, List.mem_cons_of_mem step hc, hmoved⟩

/-- The callable of a step stands somewhere in the tree. -/
theorem callable_mem_treeOf_of_arisesIn {scope : Option Text} {stmts : List Stmt} {step : Step}
    (h : ArisesIn scope stmts step) {home : Home} {c : Documented Callable}
    (hstep : step = .callable home c) : .callable c.decl ∈ treeOf stmts := by
  induction h with
  | callable doc hmem =>
      obtain ⟨rfl, rfl⟩ := Step.callable.inj hstep
      exact mem_treeOf_self hmem
  | method doc hmem hmethod =>
      obtain ⟨rfl, rfl⟩ := Step.callable.inj hstep
      exact mem_treeOf_classDecl hmem (mem_treeOf_self hmethod)
  | inside hmem _ ih => exact mem_treeOf_namespaceDecl hmem (ih hstep)
  | _ => cases hstep

theorem emitScope_shift (ctx : Context) (created : List Text) (scope : Option Text)
    {stmts : List Stmt} (hdefaults : ∀ c, .callable c ∈ treeOf stmts → c.DefaultsOnLines) :
    (emitScope ctx created scope stmts).AgreesUpTo
      (fun d d' => ∃ c, .callable c ∈ treeOf stmts ∧ RemarkMoved k ctx.file c d d')
      (emitScope (ctx.shift k) created scope (shiftOf k stmts)) := by
  have hmem : ∀ home c, Step.callable home c ∈ scopeSteps ctx.options scope stmts →
      .callable c.decl ∈ treeOf stmts := fun home c hstep =>
    callable_mem_treeOf_of_arisesIn (arisesIn_of_mem_scopeSteps hstep) rfl
  have hrun := emit_shift (k := k) ctx created fun home c hstep =>
    hdefaults c.decl (hmem home c hstep)
  rw [← scopeSteps_shiftOf] at hrun
  refine ⟨hrun.segments, hrun.created, hrun.failure, hrun.diagnostics.imp ?_⟩
  rintro d d' ⟨home, c, hstep, hmoved⟩
  exact ⟨c.decl, hmem home c hstep, hmoved⟩

theorem lines_movedDown (source : Text) :
    (movedDown k source).lines = List.replicate k [] ++ source.lines := by
  induction k with
  | zero => rfl
  | succ k ih =>
      rw [movedDown_succ, Text.lines, List.splitOn, List.splitOnP_cons_eq_if_modifyHead,
        if_pos (beq_self_eq_true '\n'), ← List.splitOn, ← Text.lines, ih]
      rfl

/-- A blank line in front hides no module tag and brings none in. -/
theorem findModuleTag_movedDown (source : Text) :
    findModuleTag (movedDown k source) = findModuleTag source := by
  induction k with
  | zero => rfl
  | succ k ih =>
      have hline : moduleTagAtStart? (movedDown (k + 1) source) = none := rfl
      rw [movedDown_succ, findModuleTag, ← movedDown_succ, hline, Option.none_or, ih]

theorem Context.ofSource_movedDown (options : Options) (source path : Text) :
    Context.ofSource options (movedDown k source) path =
      (Context.ofSource options source path).shift k := by
  simp only [Context.ofSource, ModuleName.resolve, findModuleTag_movedDown, lines_movedDown,
    Context.shift]

/-- What becomes of a file that can be parsed. -/
theorem convertSource_of_parse {ε : Type} {parse : Text → Except ε (List Stmt)} {source : Text}
    {stmts : List Stmt} (hparse : parse source = .ok stmts) (options : Options) (path : Text) :
    convertSource parse options source path =
      let emission := emitScope (.ofSource options source path) [] none stmts
      let name := ModuleName.resolve source path
      match emission.text with
      | .error failure => .error (.unhandled failure)
      | .ok text =>
          .ok ⟨Text.unlines (moduleLines options name ++ [text]), name, emission.diagnostics⟩ := by
  rw [convertSource, hparse]
  simp only [convertStatements]
  cases (emitScope (.ofSource options source path) [] none stmts).text <;> rfl

/-- Two conversions with the same text and module, and with remarks on the
callables of a tree that differ in where those stand. -/
structure Conversion.MovedTo (k : Nat) (path : Text) (stmts : List Stmt) (c c' : Conversion) :
    Prop where
  text : c'.text = c.text
  moduleName : c'.moduleName = c.moduleName
  diagnostics : List.Forall₂
    (fun d d' => ∃ callable, .callable callable ∈ treeOf stmts ∧
      RemarkMoved k (some path) callable d d') c.diagnostics c'.diagnostics

/-- A file with blank lines in front is converted to the same text and module,
or fails in the same way, and every remark has moved with its callable. -/
theorem convertSource_movedDown {ε : Type} (parse parse' : Text → Except ε (List Stmt))
    (options : Options) (k : Nat) (source path : Text) (stmts : List Stmt)
    (hparse : parse source = .ok stmts)
    (hparse' : parse' (movedDown k source) = .ok (shiftOf k stmts))
    (hdefaults : ∀ c, .callable c ∈ treeOf stmts → c.DefaultsOnLines) :
    (∀ e, convertSource parse options source path = .error e →
      convertSource parse' options (movedDown k source) path = .error e) ∧
    ∀ c, convertSource parse options source path = .ok c →
      ∃ c', convertSource parse' options (movedDown k source) path = .ok c' ∧
        c.MovedTo k path stmts c' := by
  have hname : ModuleName.resolve (movedDown k source) path = ModuleName.resolve source path := by
    rw [ModuleName.resolve, findModuleTag_movedDown, ModuleName.resolve]
  have hrun := emitScope_shift (k := k) (.ofSource options source path) [] none hdefaults
  rw [← Context.ofSource_movedDown] at hrun
  have htext : (emitScope (.ofSource options (movedDown k source) path) [] none
      (shiftOf k stmts)).text = (emitScope (.ofSource options source path) [] none stmts).text := by
    rw [Emission.text, hrun.failure, hrun.segments, ← Emission.text]
  simp only [convertSource_of_parse hparse, convertSource_of_parse hparse', hname, htext]
  cases (emitScope (.ofSource options source path) [] none stmts).text with
  | error failure =>
      refine ⟨fun e he => he, ?_⟩
      intro c hc
      cases hc
  | ok text =>
      refine ⟨?_, ?_⟩
      · intro e he
        cases he
      · intro c hc
        obtain rfl := Except.ok.inj hc
        exact ⟨_, rfl, rfl, rfl, hrun.diagnostics⟩

namespace RelocationWitness

def source : Text :=
  ("namespace Net\n' @param \x7bstring\x7d host - where\n@inline\n" ++
    "function get(url = a(1,\n 2))\nend function\nend namespace").toList

/-- A function with an annotation between it and its comment, and with a
default on two lines.  The comment names a parameter that is not there. -/
def stmts : List Stmt :=
  [.namespaceDecl ⟨"Net".toList, .ofLines 1 (some 7)⟩
    [.comment ⟨.ofLines 2 none, "' @param \x7bstring\x7d host - where".toList⟩,
      .callable
        { name := "get".toList, range := .ofLines 4 (some 6),
          params := [{ name := "url".toList, default := some ⟨⟨4, 19⟩, ⟨5, 3⟩⟩ }],
          annots := [⟨"inline".toList, .ofLines 3 none⟩] }]]

end RelocationWitness

theorem convertSource_movedDown_net :
    ∃ c c', convertSource (ε := Empty) (fun _ => .ok RelocationWitness.stmts) {}
        RelocationWitness.source "net.bs".toList = .ok c ∧
      convertSource (ε := Empty) (fun _ => .ok (shiftOf 2 RelocationWitness.stmts)) {}
        (movedDown 2 RelocationWitness.source) "net.bs".toList = .ok c' ∧
      c.diagnostics.length = 1 ∧
      c.MovedTo 2 "net.bs".toList RelocationWitness.stmts c' := by
  obtain ⟨-, hmoved⟩ := convertSource_movedDown (ε := Empty)
    (fun _ => .ok RelocationWitness.stmts) (fun _ => .ok (shiftOf 2 RelocationWitness.stmts)) {}
    2 RelocationWitness.source "net.bs".toList RelocationWitness.stmts rfl rfl
    (by
      intro c hc
      obtain rfl : c = _ := by simpa [RelocationWitness.stmts, treeOf, Stmt.tree] using hc
      decide)
  obtain ⟨c, hc, hremarks⟩ : ∃ c, convertSource (ε := Empty)
      (fun _ => .ok RelocationWitness.stmts) {} RelocationWitness.source "net.bs".toList = .ok c ∧
        c.diagnostics.length = 1 := by
    refine ⟨_, rfl, ?_⟩
    decide +kernel
  obtain ⟨c', hc', hboth⟩ := hmoved c hc
  exact ⟨c, c', hc, hc', hremarks, hboth⟩

end DocWeave
