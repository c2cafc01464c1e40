/-
The frame of a doc block.  Between the line that opens a block and the one that
closes it, each entry has a line of its own that starts with a star.  An entry with
line feeds in it goes on over as many lines more.  For a callable these are the
line feeds in the defaults of its parameters, so that a callable whose defaults
stand on one line each keeps the frame of its block whole.
-/
import DocWeave.Proofs.Comment.ReadBack
import DocWeave.Proofs.Emission.Run
import DocWeave.Proofs.Reconcile.LineFeeds
import DocWeave.Proofs.Source.Offsets

namespace DocWeave

/-- The lines of a text between its first one and the next that closes a block. -/
def linesInside (t : Text) : List Text :=
  (t.lines.drop 1).takeWhile (· != " */".toList)

/-- An entry stands on a line that starts with a star, and on one line more for each
line feed in it. -/
def StandsOn (entry : Text) (lines : List Text) : Prop :=
  ∃ first more, lines = first :: more ∧ " *".toList <+: first ∧ more.length = entry.count '\n'

/-- A text starts with a block in which these entries stand one after another. -/
structure ShowsEntries (entries : List Text) (t : Text) : Prop where
  opens : t.lines.head? = some "/**".toList
  closes : " */".toList ∈ t.lines
  shown : ∃ groups : List (List Text), linesInside t = groups.flatten ∧
    List.Forall₂ StandsOn entries groups

/-- A text starts with a block that has one line for each of these entries, and all
of its lines start with a star. -/
structure KeepsFrame (entries : List Text) (t : Text) : Prop where
  opens : t.lines.head? = some "/**".toList
  closes : " */".toList ∈ t.lines
  starred : ∀ line ∈ linesInside t, " *".toList <+: line
  oneEach : (linesInside t).length = entries.length

theorem length_flatten_of_standsOn {entries : List Text} {groups : List (List Text)}
    (h : List.Forall₂ StandsOn entries groups) :
    groups.flatten.length = entries.length + lineFeedsIn entries := by
  induction h with
  | nil => rfl
  | @cons entry group entries groups hgroup hrest ih =>
      obtain ⟨first, more, rfl, -, hmore⟩ := hgroup
      rw [List.flatten_cons, List.length_append, ih, List.length_cons, hmore, List.length_cons,
        lineFeedsIn_cons]
      omega

theorem starred_of_standsOn {entries : List Text} {groups : List (List Text)}
    (h : List.Forall₂ StandsOn entries groups) (hentries : ∀ entry ∈ entries, '\n' ∉ entry) :
    ∀ line ∈ groups.flatten, " *".toList <+: line := by
  induction h with
  | nil => exact nofun
  | @cons entry group entries groups hgroup hrest ih =>
      obtain ⟨first, more, rfl, hfirst, hmore⟩ := hgroup
      have hentry : entry.count '\n' = 0 :=
        List.count_eq_zero.mpr (hentries entry List.mem_cons_self)
      obtain rfl : more = [] := List.eq_nil_of_length_eq_zero (hmore.trans hentry)
      intro line hline
      rcases List.mem_cons.mp hline with rfl | hlater
      · exact hfirst
      · exact ih (fun other hother => hentries other (List.mem_cons_of_mem entry hother)) line
          hlater

theorem ShowsEntries.length_linesInside {entries : List Text} {t : Text}
    (h : ShowsEntries entries t) :
    (linesInside t).length = entries.length + lineFeedsIn entries := by
  obtain ⟨groups, hinside, hgroups⟩ := h.shown
  rw [hinside, length_flatten_of_standsOn hgroups]

/-- Entries without line feeds keep the frame. -/
theorem ShowsEntries.keepsFrame {entries : List Text} {t : Text} (h : ShowsEntries entries t)
    (hentries : lineFeedsIn entries = 0) : KeepsFrame entries t := by
  have hlength := h.length_linesInside
  rw [hentries, Nat.add_zero] at hlength
  obtain ⟨groups, hinside, hgroups⟩ := h.shown
  refine ⟨h.opens, h.closes, ?_, hlength⟩
  rw [hinside]
  exact starred_of_standsOn hgroups ((lineFeedsIn_eq_zero_iff entries).mp hentries)

/-! ### Printed blocks -/

theorem count_escapeCloser (t : Text) : (escapeCloser t).count '\n' = t.count '\n' := by
  induction t using escapeCloser.induct with
  | case1 => rfl
  | case2 rest ih => simp [escapeCloser, ih]
  | case3 c rest hcloser ih => simp [escapeCloser, List.count_cons, ih]

/-- The frame of an entry is a star in front of it, which adds no line feed. -/
theorem exists_framedLine_eq (entry : Text) :
    ∃ rest, framedLine entry = " *".toList ++ rest ∧ rest.count '\n' = entry.count '\n' := by
  unfold framedLine
  split
  · rename_i hempty
    obtain rfl := List.isEmpty_iff.mp hempty
    exact ⟨[], rfl, rfl⟩
  · refine ⟨' ' :: escapeCloser entry, rfl, ?_⟩
    rw [List.count_cons_of_ne (by decide), count_escapeCloser]

theorem standsOn_framedLine (entry : Text) : StandsOn entry (framedLine entry).lines := by
  obtain ⟨rest, hframed, hcount⟩ := exists_framedLine_eq entry
  obtain ⟨first, more, hlines⟩ := List.exists_cons_of_ne_nil (List.splitOn_ne_nil '\n' rest)
  have hlength := Text.length_lines rest
  rw [Text.lines, hlines, List.length_cons, hcount] at hlength
  refine ⟨" *".toList ++ first, more, ?_, List.prefix_append _ _, Nat.succ.inj hlength⟩
  rw [hframed, Text.lines_append (by decide), Text.lines, hlines]
  rfl

/-- A line stands in its text as it is. -/
theorem Text.isInfix_of_mem_lines {t line : Text} (h : line ∈ t.lines) : line <:+: t := by
  obtain ⟨before, after, hlines⟩ := List.append_of_mem h
  have ht : t = Text.unlines (before ++ line :: after) := by
    rw [← hlines]
    exact (List.intercalate_splitOn '\n').symm
  rw [ht, Text.unlines_append_of_ne_nil before (List.cons_ne_nil line after), Text.unlines_cons]
  exact ⟨endedLines before, after.flatMap ('\n' :: ·), List.append_assoc _ _ _⟩

theorem closer_not_infix_framedLine (entry : Text) : ¬ ['*', '/'] <:+: framedLine entry := by
  unfold framedLine
  split
  · decide
  · simp [List.infix_cons_iff, closer_not_infix_escapeCloser]

/-- No entry closes the block, for a closer in it is broken up. -/
theorem closingLine_notMem_framedLine (entry : Text) :
    " */".toList ∉ (framedLine entry).lines := by
  intro h
  have hcloser : ['*', '/'] <:+: " */".toList := by decide
  exact closer_not_infix_framedLine entry (hcloser.trans (Text.isInfix_of_mem_lines h))

/-- The lines of a text that starts with a printed block. -/
theorem DocBlock.lines_render_unlines (block : DocBlock) (rest : List Text) :
    (Text.unlines (block.render :: rest)).lines =
      "/**".toList :: ((block.lines.map fun entry => (framedLine entry).lines).flatten ++
        " */".toList :: rest.flatMap Text.lines) := by
  have hrender : block.render.lines =
      "/**".toList :: ((block.lines.map fun entry => (framedLine entry).lines).flatten ++
        [" */".toList]) := by
    rw [DocBlock.render, Text.lines_unlines (by simp), List.flatMap_append, List.flatMap_append,
      List.flatMap_map, List.flatMap_def]
    rfl
  rw [Text.lines_unlines (List.cons_ne_nil _ _), List.flatMap_cons, hrender, List.cons_append,
    List.append_assoc]
  rfl

/-- A text that starts with a printed block shows its entries. -/
theorem DocBlock.showsEntries (block : DocBlock) (rest : List Text) :
    ShowsEntries block.lines (Text.unlines (block.render :: rest)) := by
  have hlines := block.lines_render_unlines rest
  refine ⟨by rw [hlines]; rfl, by rw [hlines]; simp, ?_⟩
  refine ⟨block.lines.map fun entry => (framedLine entry).lines, ?_, ?_⟩
  · rw [linesInside, hlines, List.drop_one, List.tail_cons, List.takeWhile_append_of_pos]
    · simp
    · intro line hline
      obtain ⟨group, hgroup, hmem⟩ := List.mem_flatten.mp hline
      obtain ⟨entry, -, rfl⟩ := List.mem_map.mp hgroup
      rw [bne_iff_ne]
      rintro rfl
      exact closingLine_notMem_framedLine entry hmem
  · rw [List.forall₂_map_right_iff, List.forall₂_same]
    intro entry _
    exact standsOn_framedLine entry

/-! ### Callables -/

theorem emit_callable_text (ctx : Context) (created : List Text) (home : Home)
    (c : Documented Callable) :
    ∃ rest, (emit ctx created [.callable home c]).text =
      .ok (Text.unlines ((ctx.callableDoc home c).block.render :: rest)) :=
  ⟨_, rfl⟩

/-- What stands on one line of the source holds no line feed. -/
theorem newline_notMem_slice {range : SourceRange} (source : Text)
    (h : range.start.line = range.stop.line) : '\n' ∉ range.slice source.lines := by
  intro hnewline
  rw [SourceRange.slice] at hnewline
  split at hnewline
  · rename_i hfits
    obtain ⟨hfirst, -, hlast⟩ := hfits
    have hlength : ((source.lines.take range.stop.line.toNat).drop
        (range.start.line.toNat - 1)).length = 1 := by
      rw [List.length_drop, List.length_take]
      omega
    obtain ⟨line, hline⟩ := List.length_eq_one_iff.mp hlength
    rw [hline] at hnewline
    have hmem : line ∈ source.lines := by
      apply List.mem_of_mem_take
      apply List.mem_of_mem_drop
      rw [hline]
      exact List.mem_singleton_self line
    have hcut : '\n' ∈ line := List.mem_of_mem_take (List.mem_of_mem_drop hnewline)
    exact Text.newline_notMem_of_mem_lines hmem hcut
  · cases hnewline

/-- What a callable is named and typed with holds no line feed: its parameters, its
type, its module and its scope. -/
structure Context.NamesOnOneLine (ctx : Context) (home : Home) (c : Callable) : Prop where
  params : ∀ p ∈ c.params, '\n' ∉ p.name ∧ '\n' ∉ p.type.typeName ctx.options.untyped
  returns : '\n' ∉ c.returns.typeName ctx.options.untyped
  moduleName : ∀ name ∈ ctx.moduleName, '\n' ∉ name
  scope : ∀ name ∈ (home.membership ctx.moduleName).2, '\n' ∉ name

/-- The texts of the defaults that a callable's parameters have. -/
def Context.defaultTexts (ctx : Context) (c : Callable) : List Text :=
  c.params.filterMap fun p => (Parameter.of ctx.options ctx.lines p).default

theorem Context.lineFeedsIn_callableDoc {ctx : Context} {home : Home} {c : Documented Callable}
    (h : ctx.NamesOnOneLine home c.decl) :
    lineFeedsIn (ctx.callableDoc home c).block.lines = lineFeedsIn (ctx.defaultTexts c.decl) := by
  have hmodule : ∀ name ∈ (home.membership ctx.moduleName).1, '\n' ∉ name := by
    cases home with
    | scope => exact h.moduleName
    | classBody => exact nofun
  have hparameters : ∀ q ∈ (Signature.of ctx.options ctx.lines c.decl).parameters,
      '\n' ∉ q.name ∧ '\n' ∉ q.typeName := List.forall_mem_map.mpr h.params
  have hblock := lineFeedsIn_documentCallable ctx.options
    (newline_notMem_docBody ctx.options c.doc) hparameters h.returns hmodule h.scope
  rw [Signature.of, List.filterMap_map] at hblock
  exact hblock

/-- A callable is written to its end.  Each entry of its block has a line that starts
with a star, and the lines there are more than entries are those that the line feeds
in its defaults make.  If the defaults hold none, and so whenever their ranges start
and stop on the same line, each line of the block starts with a star and there is
one for each entry. -/
theorem emit_callable_framed (ctx : Context) (created : List Text) (home : Home)
    (c : Documented Callable) (source : Text) (hsource : ctx.lines = source.lines)
    (hnames : ctx.NamesOnOneLine home c.decl) :
    let entries := (ctx.callableDoc home c).block.lines
    let defaults := ctx.defaultTexts c.decl
    ∃ t, (emit ctx created [.callable home c]).text = .ok t ∧
      ShowsEntries entries t ∧
      (linesInside t).length = entries.length + lineFeedsIn defaults ∧
      ((∀ text ∈ defaults, '\n' ∉ text) → KeepsFrame entries t) ∧
      ((∀ p ∈ c.decl.params, ∀ range ∈ p.default, range.start.line = range.stop.line) →
        KeepsFrame entries t) := by
  intro entries defaults
  obtain ⟨rest, htext⟩ := emit_callable_text ctx created home c
  have hshows := (ctx.callableDoc home c).block.showsEntries rest
  have hfeeds : lineFeedsIn entries = lineFeedsIn defaults := ctx.lineFeedsIn_callableDoc hnames
  have hframe : (∀ text ∈ defaults, '\n' ∉ text) → KeepsFrame entries
      (Text.unlines ((ctx.callableDoc home c).block.render :: rest)) := by
    intro hdefaults
    apply hshows.keepsFrame
    rw [hfeeds, lineFeedsIn_eq_zero_iff]
    exact hdefaults
  refine ⟨_, htext, hshows, hfeeds ▸ hshows.length_linesInside, hframe, ?_⟩
  intro hranges
  apply hframe
  intro text hdefault hnewline
  obtain ⟨p, hp, hdefault⟩ := List.mem_filterMap.mp hdefault
  obtain ⟨range, hrange, rfl⟩ := Option.map_eq_some_iff.mp hdefault
  rw [hsource] at hnewline
  exact newline_notMem_slice source (hranges p hp range hrange) (mem_of_mem_strip hnewline)

namespace FramingWitness

/-- The default of the first parameter is followed by a line feed, that of the second
one has a line feed in it. -/
def source : Text := "sub send(x = 1\n, y = [2,\n3])".toList

def ctx : Context := { moduleName := some "net".toList, lines := source.lines }

def doc : Comment := ⟨.ofLines 0 none, "' Sends.\n' @param \x7bmap\x7d y all, */ too".toList⟩

def x : Param := { name := "x".toList, default := some ⟨⟨1, 13⟩, ⟨2, 0⟩⟩ }

def y : Param := { name := "y".toList, default := some ⟨⟨2, 6⟩, ⟨3, 2⟩⟩ }

def send (params : List Param) : Documented Callable :=
  ⟨{ name := "send".toList, range := .ofLines 1 none, params }, some doc⟩

theorem names {params : List Param} (h : params <+: [x, y]) :
    ctx.NamesOnOneLine (.scope (some "Net".toList)) (send params).decl := by
  have hnames : ∀ p ∈ [x, y],
      '\n' ∉ p.name ∧ '\n' ∉ p.type.typeName ctx.options.untyped := by decide
  have hreturns : '\n' ∉ DeclaredType.absent.typeName ctx.options.untyped := by decide
  exact ⟨fun p hp => hnames p (h.subset hp), hreturns, by decide, by decide⟩

end FramingWitness

/-- A range that stops at the start of the next line keeps the frame, a default with a
line feed in it makes one line more. -/
theorem emit_callable_framed_send :
    (∃ t, (emit FramingWitness.ctx []
        [.callable (.scope (some "Net".toList)) (FramingWitness.send [FramingWitness.x])]).text =
          .ok t ∧
      KeepsFrame (FramingWitness.ctx.callableDoc (.scope (some "Net".toList))
        (FramingWitness.send [FramingWitness.x])).block.lines t) ∧
    ∃ t, (emit FramingWitness.ctx []
        [.callable (.scope (some "Net".toList))
          (FramingWitness.send [FramingWitness.x, FramingWitness.y])]).text = .ok t ∧
      (linesInside t).length = 6 := by
  obtain ⟨t, htext, -, -, hframe, -⟩ := emit_callable_framed FramingWitness.ctx []
    (.scope (some "Net".toList)) (FramingWitness.send [FramingWitness.x]) FramingWitness.source rfl
    (FramingWitness.names (by decide))
  obtain ⟨u, hwritten, -, hlength, -, -⟩ := emit_callable_framed FramingWitness.ctx []
    (.scope (some "Net".toList)) (FramingWitness.send [FramingWitness.x, FramingWitness.y])
    FramingWitness.source rfl (FramingWitness.names (by decide))
  refine ⟨⟨t, htext, hframe (by decide +kernel)⟩, u, hwritten, hlength.trans ?_⟩
  decide +kernel

namespace FramingWitness

def splitSource : Text := "sub f(x = [1,\n2])".toList

def splitCtx : Context := { lines := splitSource.lines }

def split : Callable :=
  { name := "f".toList, range := .ofLines 1 none
    params := [{ name := "x".toList, default := some ⟨⟨1, 10⟩, ⟨2, 2⟩⟩ }] }

end FramingWitness

/-- The second line of a default stands in the block without a star, and there are
three lines for two entries. -/
theorem emit_callable_unframed :
    ∃ t, (emit FramingWitness.splitCtx []
        [.callable (.scope none) ⟨FramingWitness.split, none⟩]).text = .ok t ∧
      FramingWitness.splitCtx.NamesOnOneLine (.scope none) FramingWitness.split ∧
      linesInside t = [" * @param \x7bdynamic\x7d [x=[1,".toList, "2]]".toList,
        " * @return \x7bdynamic\x7d".toList] ∧
      ¬ KeepsFrame (FramingWitness.splitCtx.callableDoc (.scope none)
        ⟨FramingWitness.split, none⟩).block.lines t := by
  refine ⟨_, rfl, ⟨by decide, by decide, by decide, by decide⟩, by decide +kernel, ?_⟩
  intro h
  have hone := h.oneEach
  revert hone
  decide +kernel

end DocWeave
