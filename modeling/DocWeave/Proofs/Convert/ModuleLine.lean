/-
The module line.  Where a source does not name its module, the line that is
written for it does, and the search for a module tag finds that name before
anything else in the file.  A file converted once more therefore keeps its
module and gets no second line, whatever it is called then.
-/
import DocWeave.Proofs.Convert.Relocation
import DocWeave.Proofs.ModuleName.Search
import DocWeave.Proofs.Tag.Closers

namespace DocWeave

/-- A file that is converted has been parsed and written, behind its module line
if it gets one. -/
theorem convertSource_eq_ok_iff {ε : Type} (parse : Text → Except ε (List Stmt))
    (options : Options) (source path : Text) (c : Conversion) :
    convertSource parse options source path = .ok c ↔
      ∃ stmts text, parse source = .ok stmts ∧
        (emitScope (.ofSource options source path) [] none stmts).text = .ok text ∧
        c = { text := Text.unlines
                (moduleLines options (ModuleName.resolve source path) ++ [text])
              moduleName := ModuleName.resolve source path
              diagnostics :=
                (emitScope (.ofSource options source path) [] none stmts).diagnostics } := by
  constructor
  · intro h
    rcases hparse : parse source with e | stmts
    · simp [convertSource, hparse] at h
    · rw [convertSource_of_parse hparse] at h
      rcases htext : (emitScope (.ofSource options source path) [] none stmts).text with e | text
      · simp [htext] at h
      · simp only [htext, Except.ok.injEq] at h
        exact ⟨stmts, text, rfl, htext, h.symm⟩
  · rintro ⟨stmts, text, hparse, htext, rfl⟩
    simp only [convertSource_of_parse hparse, htext]

/-- Behind its opener, the module line starts with the tag and the name. -/
theorem renderInline_documentModule {name : Text} (hname : '*' ∉ name) :
    (documentModule name).renderInline =
      "/** ".toList ++ (moduleTag ++ ' ' :: (name ++ " */".toList)) := by
  have hinline : (documentModule name).renderInline =
      "/** ".toList ++ escapeCloser ([' '].intercalate [moduleTag ++ ' ' :: name]) ++
        " */".toList := rfl
  have hstar : '*' ∉ moduleTag ++ ' ' :: name := by
    simp only [List.mem_append, List.mem_cons, not_or]
    exact ⟨by decide, by decide, hname⟩
  have hfree : ¬ ['*', '/'] <:+: moduleTag ++ ' ' :: name := fun hcloser =>
    hstar (hcloser.subset List.mem_cons_self)
  rw [hinline, List.intercalate_singleton, escapeCloser_of_closerFree hfree, List.append_assoc,
    List.append_assoc]
  rfl

/-- The module line names its module, whatever is written behind it. -/
theorem findModuleTag_moduleLine {name : Text} (hne : name ≠ [])
    (hname : ∀ c ∈ name, isBlank c = false ∧ c ≠ '*') (rest : Text) :
    findModuleTag ((documentModule name).renderInline ++ rest) = some name := by
  have hstar : '*' ∉ name := fun hmem => (hname '*' hmem).2 rfl
  have hchars : ∀ c ∈ name, isModuleNameChar c = true := fun c hc =>
    (isModuleNameChar_iff c).mpr (hname c hc)
  have hgap : IsRun isSpaceOrTab [' '] (name ++ (" */".toList ++ rest)) := by
    refine ⟨by simp [isSpaceOrTab], ?_⟩
    intro c hc
    rw [List.head?_append_of_ne_nil name hne] at hc
    exact isSpaceOrTab_of_isModuleNameChar (hchars c (List.mem_of_head? hc))
  have hrun : IsRun isModuleNameChar name (" */".toList ++ rest) := by
    refine ⟨hchars, ?_⟩
    rintro c ⟨rfl⟩
    decide
  have hnames : NamesModuleAt (moduleTag ++ ' ' :: (name ++ (" */".toList ++ rest))) 0 name :=
    ⟨' ' :: (name ++ (" */".toList ++ rest)), rfl,
      ⟨[' '], " */".toList ++ rest, rfl, List.cons_ne_nil _ _, hgap, hrun⟩, hne⟩
  have hline : (documentModule name).renderInline ++ rest =
      "/** ".toList ++ (moduleTag ++ ' ' :: (name ++ (" */".toList ++ rest))) := by
    rw [renderInline_documentModule hstar]
    simp
  rw [hline, findModuleTag_append_of_notMem (by decide), findModuleTag_eq_some_iff]
  exact ⟨0, ⟨⟨name, hnames⟩, fun _ _ => Nat.zero_le _⟩, hnames⟩

/-- The module line that is written for a file names its module to every later
search, whatever tags follow it.  When the converted text is converted again, with
any parser and options and under any path, its module stays the same and nothing
is written but its statements. -/
theorem convertSource_moduleLine_names {ε : Type} (parse : Text → Except ε (List Stmt))
    (options : Options) (source path : Text) (c : Conversion)
    (hline : options.emitModuleTag = true)
    (hconvert : convertSource parse options source path = .ok c)
    (himplicit : c.moduleName.explicit = false) (hne : c.moduleName.name ≠ [])
    (hname : ∀ d ∈ c.moduleName.name, isBlank d = false ∧ d ≠ '*') :
    (∀ path', ModuleName.resolve c.text path' = ⟨c.moduleName.name, true⟩) ∧
    ∀ {ε' : Type} (parse' : Text → Except ε' (List Stmt)) (options' : Options) (path' : Text)
      (again : Conversion),
      convertSource parse' options' c.text path' = .ok again ↔
        ∃ stmts, parse' c.text = .ok stmts ∧
          (emitScope (.ofSource options' c.text path') [] none stmts).text = .ok again.text ∧
          again.moduleName = ⟨c.moduleName.name, true⟩ ∧
          again.diagnostics =
            (emitScope (.ofSource options' c.text path') [] none stmts).diagnostics := by
  obtain ⟨stmts, text, -, -, hc⟩ :=
    (convertSource_eq_ok_iff parse options source path c).mp hconvert
  have hmodule : c.moduleName = ModuleName.resolve source path := by rw [hc]
  have hlines : moduleLines options (ModuleName.resolve source path) =
      [(documentModule c.moduleName.name).renderInline] := by
    rw [← hmodule, moduleLines, himplicit, hline]
    rfl
  have htext : c.text = (documentModule c.moduleName.name).renderInline ++ '\n' :: text := by
    have hunlines : c.text =
        Text.unlines (moduleLines options (ModuleName.resolve source path) ++ [text]) := by rw [hc]
    rw [hunlines, hlines]
    simp [Text.unlines]
  have hresolve : ∀ path', ModuleName.resolve c.text path' = ⟨c.moduleName.name, true⟩ := by
    intro path'
    apply ModuleName.resolve_of_findModuleTag
    rw [htext, findModuleTag_moduleLine hne hname]
  refine ⟨hresolve, ?_⟩
  intro ε' parse' options' path' again
  have hnone : ∀ written : Text,
      Text.unlines (moduleLines options' ⟨c.moduleName.name, true⟩ ++ [written]) = written := by
    intro written
    simp [moduleLines, Text.unlines]
  rw [convertSource_eq_ok_iff, hresolve path']
  simp only [hnone]
  constructor
  · rintro ⟨stmts', written, hparse, hwritten, rfl⟩
    exact ⟨stmts', hparse, hwritten, rfl, rfl⟩
  · rintro ⟨stmts', hparse, hwritten, hmodule', hdiagnostics⟩
    refine ⟨stmts', again.text, hparse, hwritten, ?_⟩
    rw [← hmodule', ← hdiagnostics]

namespace ModuleLineWitness

/-- A file that does not name its module, though a comment in it is written with a
tag that reads as if it did. -/
def stmts : List Stmt :=
  [.comment ⟨.ofLines 1 none, "' @module other".toList⟩,
    .callable { name := "send".toList, range := .ofLines 2 none }]

def parse : Text → Except Empty (List Stmt) := fun _ => .ok stmts

end ModuleLineWitness

theorem convertSource_moduleLine_names_client :
    ∃ c again, convertSource ModuleLineWitness.parse {} [] "lib/net.client.bs".toList = .ok c ∧
      c.moduleName = ⟨"net_client".toList, false⟩ ∧
      ModuleName.resolve c.text "elsewhere.bs".toList = ⟨"net_client".toList, true⟩ ∧
      convertSource ModuleLineWitness.parse {} c.text "elsewhere.bs".toList = .ok again ∧
      again.moduleName = ⟨"net_client".toList, true⟩ := by
  obtain ⟨c, hconvert, hmodule⟩ : ∃ c,
      convertSource ModuleLineWitness.parse {} [] "lib/net.client.bs".toList = .ok c ∧
        c.moduleName = ⟨"net_client".toList, false⟩ := by
    refine ⟨_, rfl, ?_⟩
    decide +kernel
  have hchars : "net_client".toList.all isModuleNameChar = true := by decide
  have hname : ∀ d ∈ c.moduleName.name, isBlank d = false ∧ d ≠ '*' := by
    intro d hd
    rw [hmodule] at hd
    exact (isModuleNameChar_iff d).mp (List.all_eq_true.mp hchars d hd)
  obtain ⟨hresolve, hagain⟩ := convertSource_moduleLine_names ModuleLineWitness.parse {} []
    "lib/net.client.bs".toList c rfl hconvert (by rw [hmodule]) (by rw [hmodule]; decide) hname
  rw [hmodule] at hresolve hagain
  obtain ⟨text, hwritten⟩ : ∃ text, (emitScope (.ofSource {} c.text "elsewhere.bs".toList) [] none
      ModuleLineWitness.stmts).text = .ok text := by
    have hknown : ∀ stmt ∈ treeOf ModuleLineWitness.stmts, stmt.unknownKind? = none := by
      simp [ModuleLineWitness.stmts, treeOf, Stmt.tree, Stmt.unknownKind?]
    exact ⟨_, Emission.text_of_success (emitScope_failure_eq_none hknown _ _ _)⟩
  have hconvertAgain := (hagain ModuleLineWitness.parse {} "elsewhere.bs".toList
    ⟨text, ⟨"net_client".toList, true⟩, _⟩).mpr
      ⟨ModuleLineWitness.stmts, rfl, hwritten, rfl, rfl⟩
  exact ⟨c, _, hconvert, hmodule, hresolve "elsewhere.bs".toList, hconvertAgain, rfl⟩

end DocWeave
