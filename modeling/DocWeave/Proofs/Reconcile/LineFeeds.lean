/-
Line feeds in a doc block.  What is read out of a comment holds no line feed, for a
comment is cut into lines first and its lines only lose characters.  In the block
of a callable whose names and types hold none either, the line feeds are those in
the defaults of its parameters, which are taken from the source as they stand.
-/
import DocWeave.Proofs.Emission.BareCode
import DocWeave.Proofs.Reconcile.OneLineEach
import DocWeave.Proofs.Tag.Anatomy
import DocWeave.Proofs.Text.Cutting

namespace DocWeave

/-- The number of line feeds in some texts. -/
def lineFeedsIn (ts : List Text) : Nat :=
  ts.flatten.count '\n'

theorem lineFeedsIn_cons (t : Text) (ts : List Text) :
    lineFeedsIn (t :: ts) = t.count '\n' + lineFeedsIn ts := by
  rw [lineFeedsIn, List.flatten_cons, List.count_append, lineFeedsIn]

theorem lineFeedsIn_append (ts us : List Text) :
    lineFeedsIn (ts ++ us) = lineFeedsIn ts + lineFeedsIn us := by
  rw [lineFeedsIn, List.flatten_append, List.count_append, lineFeedsIn, lineFeedsIn]

theorem lineFeedsIn_eq_zero_iff (ts : List Text) :
    lineFeedsIn ts = 0 ↔ ∀ t ∈ ts, '\n' ∉ t := by
  rw [lineFeedsIn, List.count_eq_zero, List.mem_flatten]
  simp only [not_exists, not_and]

theorem lineFeedsIn_perm {ts us : List Text} (h : ts.Perm us) :
    lineFeedsIn ts = lineFeedsIn us :=
  h.flatten.count_eq '\n'

/-! ### Comments -/

theorem mem_of_mem_dropCloser {t : Text} {c : Char} (h : c ∈ dropCloser t) : c ∈ t := by
  unfold dropCloser at h
  split at h
  · rename_i rest hreverse
    have hrest := List.dropWhile_subset _ (List.dropWhile_subset _ (List.mem_reverse.mp h))
    rw [← List.mem_reverse, hreverse]
    exact List.mem_cons_of_mem _ (List.mem_cons_of_mem _ hrest)
  · exact h

theorem mem_of_mem_dropStars {t : Text} {c : Char} (h : c ∈ dropStars t) : c ∈ t :=
  List.dropWhile_subset _ (mem_of_mem_strip h)

theorem mem_of_mem_dropOpener {t : Text} {c : Char} (h : c ∈ dropOpener t) : c ∈ t := by
  unfold dropOpener at h
  split at h
  · exact List.mem_cons_of_mem _ (List.mem_cons_of_mem _ (mem_of_mem_dropStars h))
  · exact h

theorem mem_of_mem_stripMarker {markers : List Text} {t : Text} {c : Char}
    (h : c ∈ stripMarker markers t) : c ∈ t := by
  unfold stripMarker at h
  split at h
  · exact List.mem_of_mem_drop (mem_of_mem_strip h)
  · exact h

/-- The body of a line is made of characters of the line. -/
theorem mem_of_mem_bodyLine {markers : List Text} {first : Bool} {line : Text} {c : Char}
    (h : c ∈ bodyLine markers first line) : c ∈ line := by
  have hkept : c ∈ dropStars (dropCloser (stripMarker markers line.strip)) := by
    unfold bodyLine at h
    cases first with
    | false => exact h
    | true => exact mem_of_mem_dropOpener h
  exact mem_of_mem_strip (mem_of_mem_stripMarker (mem_of_mem_dropCloser
    (mem_of_mem_dropStars hkept)))

theorem mem_of_mem_trimLines {lines : List Text} {line : Text} (h : line ∈ trimLines lines) :
    line ∈ lines := by
  have hfront := List.mem_reverse.mp (List.dropWhile_subset _ (List.mem_reverse.mp h))
  exact List.dropWhile_subset _ hfront

/-- Each raw line of a body is the body of a line of the comment. -/
theorem exists_bodyLine_of_mem_rawBodyLines {markers lines : List Text} {line : Text}
    (h : line ∈ rawBodyLines markers lines) :
    ∃ first, ∃ written ∈ lines, line = bodyLine markers first written := by
  cases lines with
  | nil => cases h
  | cons head rest =>
      rcases List.mem_cons.mp h with rfl | hrest
      · exact ⟨true, head, List.mem_cons_self, rfl⟩
      · obtain ⟨written, hwritten, rfl⟩ := List.mem_map.mp hrest
        exact ⟨false, written, List.mem_cons_of_mem head hwritten, rfl⟩

/-- The lines of a comment's body are single lines. -/
theorem newline_notMem_docBody (options : Options) (doc : Option Comment) :
    ∀ line ∈ docBody options doc, '\n' ∉ line := by
  intro line hline hnewline
  cases doc with
  | none => cases hline
  | some comment =>
      obtain ⟨first, written, hwritten, rfl⟩ :=
        exists_bodyLine_of_mem_rawBodyLines (mem_of_mem_trimLines hline)
      exact Text.newline_notMem_of_mem_lines hwritten (mem_of_mem_bodyLine hnewline)

/-! ### Tag lines -/

/-- A tag line whose type and description hold no line feed. -/
structure TagLine.OnOneLine (tag : TagLine) : Prop where
  type : ∀ type ∈ tag.type, '\n' ∉ type
  description : '\n' ∉ tag.description

/-- What is inside of a clause stands in the clause. -/
theorem SpellsClause.mem_of_mem_inner {opener closer c : Char} {written : Text} {clause : Clause}
    (h : SpellsClause opener closer written clause) (hc : c ∈ clause.inner) : c ∈ written := by
  cases h with
  | closed => exact List.mem_cons_of_mem _ (List.mem_append_left _ hc)
  | cut => exact List.mem_cons_of_mem _ hc

theorem SpellsType.mem_of_mem_type {written rest type : Text} {shown : Option Text}
    {broken : Bool} {c : Char} (h : SpellsType written shown broken rest) (htype : type ∈ shown)
    (hc : c ∈ type) : c ∈ written := by
  cases h with
  | missing => cases htype
  | clause hclause =>
      obtain ⟨rfl, -⟩ := (Text.given?_eq_some_iff _ _).mp htype
      exact hclause.mem_of_mem_inner (mem_of_mem_strip hc)

/-- A tag line read from a single line is one itself. -/
theorem TagLine.onOneLine_of_parse? {line : Text} {tag : TagLine}
    (h : TagLine.parse? line = some tag) (hline : '\n' ∉ line) : tag.OnOneLine := by
  obtain ⟨-, p, hpieces, hspell⟩ := exists_spell_of_parse? h
  have hplain : '\n' ∉ p.text := fun hnewline =>
    hline (mem_of_mem_strip (hpieces.symm ▸ hnewline))
  obtain ⟨htype, hdescription⟩ : '\n' ∉ p.type ∧ '\n' ∉ p.description := by
    simp only [TagPieces.text, TagPieces.behindWord, TagPieces.behindType, TagPieces.behindName,
      List.mem_cons, List.mem_append, not_or] at hplain
    exact ⟨hplain.2.2.2.1, hplain.2.2.2.2.2.2.2⟩
  refine ⟨?_, ?_⟩
  · intro type hshown hnewline
    exact htype (hspell.type_spelled.mem_of_mem_type hshown hnewline)
  · rw [hspell.description_eq]
    exact hdescription

theorem newline_notMem_formatDescription {description : Text} (h : '\n' ∉ description) :
    '\n' ∉ formatDescription description := by
  have hstrip : '\n' ∉ description.strip := fun hmem => h (mem_of_mem_strip hmem)
  unfold formatDescription
  split
  · exact List.not_mem_nil
  · rename_i rest heq
    exact heq ▸ hstrip
  · rename_i rest heq
    have hrest : '\n' ∉ Text.strip rest := fun hmem =>
      hstrip (heq ▸ List.mem_cons_of_mem _ (mem_of_mem_strip hmem))
    split
    · exact List.not_mem_nil
    · simp [hrest]
  · simp [hstrip]

/-- A description without line feeds adds none to a line. -/
theorem count_withDescription (head : Text) {description : Text} (h : '\n' ∉ description) :
    (withDescription head description).count '\n' = head.count '\n' := by
  have hshown := newline_notMem_formatDescription h
  unfold withDescription
  split
  · rfl
  · rw [List.count_append, List.count_cons_of_ne (by decide), List.count_eq_zero.mpr hshown,
      Nat.add_zero]

section Lines

variable {tag : Option TagLine} (htag : ∀ t ∈ tag, t.OnOneLine)

include htag

theorem newline_notMem_shownDescription : '\n' ∉ shownDescription tag := by
  cases tag with
  | none => exact List.not_mem_nil
  | some t => exact (htag t rfl).description

theorem newline_notMem_shownType {declared : Text} (h : '\n' ∉ declared) :
    '\n' ∉ shownType declared tag := by
  rcases shownType_eq_or declared tag with hshown | ⟨t, ht, htype⟩
  · rwa [hshown]
  · exact (htag t ht).type _ htype

/-- The line of a parameter has the line feeds of its default. -/
theorem count_paramLine {p : Parameter} (hname : '\n' ∉ p.name) (htype : '\n' ∉ p.typeName) :
    (paramLine p tag).count '\n' = (p.default.getD []).count '\n' := by
  have hname' := List.count_eq_zero.mpr hname
  have htype' := List.count_eq_zero.mpr (newline_notMem_shownType htag htype)
  have hshown : p.shown.count '\n' = (p.default.getD []).count '\n' := by
    unfold Parameter.shown
    split <;> simp_all
  rw [paramLine, count_withDescription _ (newline_notMem_shownDescription htag)]
  simp [inBraces, htype', hshown]

theorem newline_notMem_returnLine {type : Text} (htype : '\n' ∉ type) :
    '\n' ∉ returnLine type tag := by
  have htype' := List.count_eq_zero.mpr (newline_notMem_shownType htag htype)
  rw [← List.count_eq_zero, returnLine,
    count_withDescription _ (newline_notMem_shownDescription htag)]
  simp [inBraces, htype']

end Lines

/-! ### The block of a callable -/

/-- Parameters that claim single lines get lines with the line feeds of their defaults. -/
theorem lineFeedsIn_claimParams {parameters : List Parameter} {pool : List BodyLine}
    (hpool : ∀ line ∈ pool, ∀ tag ∈ line.tag, tag.OnOneLine)
    (hparameters : ∀ p ∈ parameters, '\n' ∉ p.name ∧ '\n' ∉ p.typeName) :
    lineFeedsIn (claimParams parameters pool).1 =
      lineFeedsIn (parameters.filterMap Parameter.default) := by
  induction parameters generalizing pool with
  | nil => rfl
  | cons p rest ih =>
      obtain ⟨hname, htype⟩ := hparameters p List.mem_cons_self
      have htag : ∀ tag ∈ (pool.find? (BodyLine.isParamNamed p.name)).bind BodyLine.tag,
          tag.OnOneLine := by
        intro tag htag
        obtain ⟨line, hline, htag⟩ := Option.bind_eq_some_iff.mp htag
        exact hpool line (List.mem_of_find?_eq_some hline) tag htag
      have hleft : ∀ line ∈ pool.eraseP (BodyLine.isParamNamed p.name), ∀ tag ∈ line.tag,
          tag.OnOneLine := fun line hline => hpool line (List.mem_of_mem_eraseP hline)
      rw [claimParams, lineFeedsIn_cons, count_paramLine htag hname htype,
        ih hleft fun q hq => hparameters q (List.mem_cons_of_mem p hq)]
      cases hdefault : p.default with
      | none => rw [List.filterMap_cons_none hdefault, Option.getD_none, List.count_nil,
          Nat.zero_add]
      | some value => rw [List.filterMap_cons_some hdefault, lineFeedsIn_cons, Option.getD_some]

theorem onOneLine_of_mem_read {body : List Text} (hbody : ∀ line ∈ body, '\n' ∉ line)
    {line : BodyLine} (hline : line ∈ body.map BodyLine.read) :
    ∀ tag ∈ line.tag, tag.OnOneLine := by
  obtain ⟨text, htext, rfl⟩ := List.mem_map.mp hline
  intro tag htag
  exact TagLine.onOneLine_of_parse? htag (hbody text htext)

theorem newline_notMem_markEntries {options : Options} {moduleName scope : Option Text}
    (hmodule : ∀ name ∈ moduleName, '\n' ∉ name) (hscope : ∀ name ∈ scope, '\n' ∉ name)
    {s : Signature} {entry : TagKind × Text}
    (hentry : entry ∈ markEntries options moduleName scope s) : '\n' ∉ entry.2 := by
  have hfixed : ∀ mark ∈ ["@access private".toList, "@override".toList, "@constructor".toList],
      '\n' ∉ mark := by decide
  rcases mark_of_mem_markEntries hentry with hmark | hmember
  · exact hfixed entry.2 hmark
  · obtain ⟨name, hname, hline⟩ := Option.map_eq_some_iff.mp hmember
    have hplain : '\n' ∉ name := by
      rcases Option.or_eq_some_iff.mp hname with hgiven | ⟨-, hgiven⟩
      · exact hscope name (eq_of_bind_given? hgiven).1
      · exact hmodule name (eq_of_bind_given? hgiven).1
    rw [← hline, List.mem_append, not_or]
    exact ⟨by decide, hplain⟩

/-- The return line of a callable is a single line. -/
theorem newline_notMem_documentCallable_returns (options : Options)
    (moduleName scope : Option Text) {s : Signature} {body : List Text}
    (hbody : ∀ line ∈ body, '\n' ∉ line) (hreturns : '\n' ∉ s.returnType) :
    ∀ line ∈ (documentCallable options moduleName scope s body).block.get .returns,
      '\n' ∉ line := by
  rw [documentCallable_get_returns, List.forall_mem_singleton]
  apply newline_notMem_returnLine _ hreturns
  intro tag htag
  obtain ⟨line, hline, htag⟩ := Option.bind_eq_some_iff.mp htag
  have hplaced : line ∈ placedLines body := (List.mem_filter.mp (List.mem_of_mem_head? hline)).1
  have hread : line.1 ∈ (placedLines body).map Prod.fst := List.mem_map_of_mem hplaced
  rw [placedLines_map_fst] at hread
  exact onOneLine_of_mem_read hbody hread tag htag

/-- The line feeds in the block of a callable are those in its defaults. -/
theorem lineFeedsIn_documentCallable (options : Options) {moduleName scope : Option Text}
    {s : Signature} {body : List Text} (hbody : ∀ line ∈ body, '\n' ∉ line)
    (hparameters : ∀ p ∈ s.parameters, '\n' ∉ p.name ∧ '\n' ∉ p.typeName)
    (hreturns : '\n' ∉ s.returnType) (hmodule : ∀ name ∈ moduleName, '\n' ∉ name)
    (hscope : ∀ name ∈ scope, '\n' ∉ name) :
    lineFeedsIn (documentCallable options moduleName scope s body).block.lines =
      lineFeedsIn (s.parameters.filterMap Parameter.default) := by
  have hpool : ∀ line ∈ body.map BodyLine.read, ∀ tag ∈ line.tag, tag.OnOneLine :=
    fun line hline => onOneLine_of_mem_read hbody hline
  have htext : lineFeedsIn ((documentCallable options moduleName scope s body).block.get .text) =
      0 := by
    rw [lineFeedsIn_eq_zero_iff, documentCallable_get_text]
    intro line hline
    exact hbody line (List.mem_filter.mp hline).1
  have hreturned : lineFeedsIn
      ((documentCallable options moduleName scope s body).block.get .returns) = 0 :=
    (lineFeedsIn_eq_zero_iff _).mpr
      (newline_notMem_documentCallable_returns options moduleName scope hbody hreturns)
  have hmarks : lineFeedsIn ((markEntries options moduleName scope s).map Prod.snd) = 0 := by
    rw [lineFeedsIn_eq_zero_iff, List.forall_mem_map]
    intro entry hentry
    exact newline_notMem_markEntries hmodule hscope hentry
  rw [lineFeedsIn_perm (documentCallable_lines_perm options moduleName scope s body),
    lineFeedsIn_append, lineFeedsIn_append, lineFeedsIn_append, htext, hreturned, hmarks,
    (documentCallable_get options moduleName scope s body).2.1,
    lineFeedsIn_claimParams hpool hparameters, Nat.zero_add, Nat.add_zero]

end DocWeave
