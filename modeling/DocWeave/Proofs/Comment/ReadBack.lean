/-
A printed block is a comment again.  Its body, read as that of any comment, is
the lines of the block: the opener, the stars in front of the lines and the
closer go, and nothing an author wrote goes with them.  Only closers inside a
line stay escaped, and empty lines at the ends are lost as in every comment.
-/
import DocWeave.Comment.Body
import DocWeave.Proofs.Tag.Escape

namespace DocWeave

/-- The characters a line of a printed block starts with. -/
def isFrameChar (c : Char) : Bool :=
  c == '*' || c == '/'

theorem isFrameChar_iff (c : Char) : isFrameChar c = true ↔ c = '*' ∨ c = '/' := by
  simp [isFrameChar]

theorem lt_mapCase_upperRuns {code : Nat} (h : 0x2F < code) :
    0x2F < mapCase upperRuns code := by
  have hruns : ∀ run ∈ upperRuns, 0x2F < run.first + run.shift := by decide +kernel
  unfold mapCase
  split
  · rename_i run hrun
    have hmem := List.mem_of_find?_eq_some hrun
    have hcovers := List.find?_some hrun
    simp only [CaseRun.covers, Bool.and_eq_true, decide_eq_true_eq] at hcovers
    have hfirst := hruns run hmem
    omega
  · exact h

/-- The code points of a star and of a slash are at most `0x2F`. -/
theorem ofNat_ne_of_isFrameChar {code : Nat} (hcode : 0x2F < code) {d : Char}
    (hd : isFrameChar d = true) : Char.ofNat code ≠ d := by
  intro h
  have hframe : d.toNat ≤ 0x2F ∧ d ≠ '\x00' := by
    rcases (isFrameChar_iff d).mp hd with rfl | rfl <;> decide
  by_cases hvalid : code.isValidChar
  · have hchar : Char.ofNat code = Char.ofNatAux code hvalid := dif_pos hvalid
    have hval : code = d.toNat := congrArg Char.toNat (hchar.symm.trans h)
    omega
  · have hchar : Char.ofNat code = '\x00' := dif_neg hvalid
    exact hframe.2 (h.symm.trans hchar)

theorem eq_of_toUpper_eq {c d : Char} (hd : isFrameChar d = true) (h : c.toUpper = d) :
    c = d := by
  unfold Char.toUpper at h
  split at h
  · rename_i hlower
    have hval := congrArg Char.val h
    rcases (isFrameChar_iff d).mp hd with rfl | rfl
    · simp [UInt32.le_iff_toNat_le, ← UInt32.toNat_inj] at hval hlower
      omega
    · simp [UInt32.le_iff_toNat_le, ← UInt32.toNat_inj] at hval hlower
      omega
  · exact h

/-- No other character has a star or a slash as its upper-case form. -/
theorem exists_upperChar_eq_cons {c d : Char} (hd : isFrameChar d = true) (hne : c ≠ d) :
    ∃ u rest, upperChar c = u :: rest ∧ u ≠ d := by
  have hexpansions : ∀ e ∈ upperExpansions, e.2.head?.any (0x2F < ·) = true := by
    decide +kernel
  unfold upperChar
  split
  · exact ⟨c.toUpper, [], rfl, fun h => hne (eq_of_toUpper_eq hd h)⟩
  · rename_i hcode
    have hlarge : 0x2F < c.toNat := by omega
    cases hlookup : upperExpansions.lookup c.toNat with
    | none =>
        have hmapped := lt_mapCase_upperRuns hlarge
        exact ⟨_, [], rfl, ofNat_ne_of_isFrameChar hmapped hd⟩
    | some codes =>
        obtain ⟨before, after, htable, -⟩ := List.lookup_eq_some_iff.mp hlookup
        have hmem : (c.toNat, codes) ∈ upperExpansions := by
          rw [htable]
          exact List.mem_append_right before List.mem_cons_self
        have hfirst := hexpansions _ hmem
        obtain ⟨first, hhead, hfirst⟩ := (Option.any_eq_true _ _).mp hfirst
        obtain ⟨later, rfl⟩ := List.head?_eq_some_iff.mp hhead
        exact ⟨Char.ofNat first, later.map Char.ofNat, rfl,
          ofNat_ne_of_isFrameChar (by simpa using hfirst) hd⟩

/-- A marker that starts otherwise is not found in front of a star or a slash. -/
theorem startsWithMarker_frameChar {m d : Char} (hm : isFrameChar m = false)
    (hd : isFrameChar d = true) (marker rest : Text) :
    startsWithMarker (m :: marker) (d :: rest) = false := by
  have hne : m ≠ d := by
    rintro rfl
    rw [hm] at hd
    cases hd
  unfold startsWithMarker
  simp only [List.length_cons, List.take_succ_cons]
  split
  · obtain ⟨u, later, hupper, hu⟩ := exists_upperChar_eq_cons hd hne
    have hself : upperChar d = [d] := by
      rcases (isFrameChar_iff d).mp hd with rfl | rfl <;> rfl
    simp [Text.upper, hupper, hself, Ne.symm hu]
  · simp [Ne.symm hne]

/-- A trimmed line that starts with a star or a slash has no marker to lose. -/
theorem stripMarker_frameChar {markers : List Text}
    (hmarkers : ∀ marker ∈ markers, ∀ c ∈ marker.head?, isFrameChar c = false) {d : Char}
    (hd : isFrameChar d = true) {rest : Text} (htrimmed : Text.Trimmed (d :: rest)) :
    stripMarker markers (d :: rest) = d :: rest := by
  unfold stripMarker
  split
  · rename_i marker hfound
    have hmem := List.mem_of_find?_eq_some hfound
    have hstarts := List.find?_some hfound
    cases marker with
    | nil => exact Text.strip_of_trimmed htrimmed
    | cons m marker =>
        rw [startsWithMarker_frameChar (hmarkers _ hmem m rfl) hd] at hstarts
        cases hstarts
  · rfl

theorem dropCloser_of_closerFree {t : Text} (h : ¬ ['*', '/'] <:+: t) : dropCloser t = t := by
  unfold dropCloser
  split
  · rename_i rest hreverse
    have ht : t = rest.reverse ++ ['*', '/'] := by
      rw [← List.reverse_reverse t, hreverse]
      simp
    exact absurd (ht ▸ (List.suffix_append _ _).isInfix) h
  · rfl

/-- Without its blanks, the line of a block is a star, a space and the escaped
text. -/
theorem strip_framedLine {line : Text} (hne : line ≠ []) (hline : line.Trimmed) :
    (framedLine line).strip = '*' :: ' ' :: escapeCloser line := by
  have hescaped : escapeCloser line ≠ [] := fun h => hne ((escapeCloser_eq_nil_iff line).mp h)
  have htrimmed : Text.Trimmed ('*' :: ' ' :: escapeCloser line) := by
    refine ⟨?_, ?_⟩
    · intro c hc
      obtain rfl := Option.some.inj hc
      decide
    · intro c hc
      obtain ⟨d, rest, hcons⟩ := List.exists_cons_of_ne_nil hescaped
      rw [hcons, List.getLast?_cons_cons, List.getLast?_cons_cons, ← hcons] at hc
      exact (trimmed_escapeCloser hline).ends c hc
  have hframed : framedLine line = ' ' :: '*' :: ' ' :: escapeCloser line := by
    rw [framedLine, if_neg (by simpa using hne)]
    rfl
  rw [hframed, Text.strip_cons_of_blank (by decide), Text.strip_of_trimmed htrimmed]

theorem dropStars_dropCloser_framed {line : Text} (hline : line.Trimmed) :
    dropStars (dropCloser ('*' :: ' ' :: escapeCloser line)) = escapeCloser line := by
  have hinfix : ¬ ['*', '/'] <:+: '*' :: ' ' :: escapeCloser line := by
    simp [List.infix_cons_iff, closer_not_infix_escapeCloser]
  have hstars : ('*' :: ' ' :: escapeCloser line).dropWhile (· == '*') =
      ' ' :: escapeCloser line := by
    simp
  rw [dropCloser_of_closerFree hinfix, dropStars, hstars, Text.strip_cons_of_blank (by decide),
    Text.strip_of_trimmed (trimmed_escapeCloser hline)]

/-- The physical lines of a printed block. -/
def DocBlock.printedLines (block : DocBlock) : List Text :=
  "/**".toList :: (block.lines.map framedLine ++ [" */".toList])

/-- A physical line that starts with a star or a slash once its blanks are gone. -/
def IsFramed (line : Text) : Prop :=
  ∃ d rest, line.strip = d :: rest ∧ isFrameChar d = true

theorem isFramed_of_mem_printedLines {block : DocBlock}
    (hlines : ∀ line ∈ block.lines, line.Trimmed) :
    ∀ line ∈ block.printedLines, IsFramed line := by
  intro line hline
  simp only [DocBlock.printedLines, List.mem_cons, List.mem_append, List.mem_map,
    List.not_mem_nil, or_false] at hline
  rcases hline with rfl | ⟨text, htext, rfl⟩ | rfl
  · exact ⟨'/', "**".toList, by decide, rfl⟩
  · by_cases hempty : text = []
    · subst hempty
      exact ⟨'*', [], by decide, rfl⟩
    · exact ⟨'*', _, strip_framedLine hempty (hlines text htext), rfl⟩
  · exact ⟨'*', "/".toList, by decide, rfl⟩

theorem newline_notMem_printedLines {block : DocBlock}
    (hlines : ∀ line ∈ block.lines, '\n' ∉ line) :
    ∀ line ∈ block.printedLines, '\n' ∉ line := by
  intro line hline
  simp only [DocBlock.printedLines, List.mem_cons, List.mem_append, List.mem_map,
    List.not_mem_nil, or_false] at hline
  rcases hline with rfl | ⟨text, htext, rfl⟩ | rfl
  · decide
  · unfold framedLine
    split
    · decide
    · intro hnewline
      rcases List.mem_append.mp hnewline with hframe | hescaped
      · revert hframe
        decide
      · rcases mem_escapeCloser hescaped with hmem | hbackslash
        · exact hlines text htext hmem
        · cases hbackslash
  · decide

theorem DocBlock.lines_render {block : DocBlock} (hlines : ∀ line ∈ block.lines, '\n' ∉ line) :
    block.render.lines = block.printedLines :=
  List.splitOn_intercalate '\n' (newline_notMem_printedLines hlines) (List.cons_ne_nil _ _)

section Markers

variable {markers : List Text}
  (hmarkers : ∀ marker ∈ markers, ∀ c ∈ marker.head?, isFrameChar c = false)

include hmarkers

theorem stripMarker_of_isFramed {line : Text} (hline : IsFramed line) :
    stripMarker markers line.strip = line.strip := by
  obtain ⟨d, rest, hstrip, hd⟩ := hline
  have htrimmed := line.trimmed_strip
  rw [hstrip] at htrimmed ⊢
  exact stripMarker_frameChar hmarkers hd htrimmed

theorem bodyLine_framedLine {line : Text} (hline : line.Trimmed) :
    bodyLine markers false (framedLine line) = escapeCloser line := by
  by_cases hempty : line = []
  · subst hempty
    have hframed : IsFramed (framedLine []) := ⟨'*', [], by decide, rfl⟩
    simp only [bodyLine, stripMarker_of_isFramed hmarkers hframed]
    decide
  · have hframed : IsFramed (framedLine line) := ⟨'*', _, strip_framedLine hempty hline, rfl⟩
    have hstrip : stripMarker markers (framedLine line).strip =
        '*' :: ' ' :: escapeCloser line :=
      (stripMarker_of_isFramed hmarkers hframed).trans (strip_framedLine hempty hline)
    simp only [bodyLine, hstrip, dropStars_dropCloser_framed hline]
    rfl

/-- The opener and the closer leave an empty line each, every other line its
escaped text. -/
theorem rawBodyLines_printedLines {block : DocBlock}
    (hlines : ∀ line ∈ block.lines, line.Trimmed) :
    rawBodyLines markers block.printedLines =
      [] :: (block.lines.map escapeCloser ++ [[]]) := by
  have hframed := isFramed_of_mem_printedLines hlines
  have hopener : bodyLine markers true "/**".toList = [] := by
    have hstrip := stripMarker_of_isFramed hmarkers (hframed "/**".toList List.mem_cons_self)
    simp only [bodyLine, hstrip]
    decide
  have hcloser : bodyLine markers false " */".toList = [] := by
    have hstrip := stripMarker_of_isFramed hmarkers
      (hframed " */".toList (by simp [DocBlock.printedLines]))
    simp only [bodyLine, hstrip]
    decide
  have hmiddle : (block.lines.map framedLine).map (bodyLine markers false) =
      block.lines.map escapeCloser := by
    rw [List.map_map]
    apply List.map_congr_left
    intro line hline
    exact bodyLine_framedLine hmarkers (hlines line hline)
  rw [DocBlock.printedLines, rawBodyLines, List.map_append, hmiddle, hopener, List.map_singleton,
    hcloser]

end Markers

theorem trimLines_cons_nil (lines : List Text) : trimLines ([] :: lines) = trimLines lines := rfl

theorem trimLines_append_nil (lines : List Text) :
    trimLines (lines ++ [[]]) = trimLines lines := by
  unfold trimLines
  rw [List.dropWhile_append]
  split
  · rename_i hempty
    rw [List.isEmpty_iff] at hempty
    rw [hempty]
    rfl
  · simp

theorem trimLines_map_escapeCloser (lines : List Text) :
    trimLines (lines.map escapeCloser) = (trimLines lines).map escapeCloser := by
  have hempty : List.isEmpty ∘ escapeCloser = (List.isEmpty : Text → Bool) :=
    funext isEmpty_escapeCloser
  unfold trimLines
  rw [List.dropWhile_map, hempty, ← List.map_reverse, List.dropWhile_map, hempty,
    List.map_reverse]

/-- A body is what is left of some lines when the empty ones at both ends go:
it stands between empty lines, and its own first and last lines are not empty. -/
structure IsTrimOf (lines body : List Text) : Prop where
  between : ∃ before after, lines = before ++ body ++ after ∧
    ∀ line ∈ before ++ after, line = []
  first : body.head? ≠ some []
  last : body.getLast? ≠ some []

/-- Trimming leaves what stands between the empty lines at both ends. -/
theorem isTrimOf_trimLines (lines : List Text) : IsTrimOf lines (trimLines lines) := by
  have hkept : trimLines lines = (lines.dropWhile List.isEmpty).rdropWhile List.isEmpty := rfl
  have hstart : lines.takeWhile List.isEmpty ++ lines.dropWhile List.isEmpty = lines :=
    List.takeWhile_append_dropWhile
  have hend : trimLines lines ++ (lines.dropWhile List.isEmpty).rtakeWhile List.isEmpty =
      lines.dropWhile List.isEmpty :=
    List.rdropWhile_append_rtakeWhile
  refine ⟨⟨lines.takeWhile List.isEmpty,
    (lines.dropWhile List.isEmpty).rtakeWhile List.isEmpty, ?_, ?_⟩, ?_, ?_⟩
  · rw [List.append_assoc, hend, hstart]
  · intro line hline
    rw [← List.isEmpty_iff]
    rcases List.mem_append.mp hline with hbefore | hafter
    · exact List.mem_takeWhile_imp hbefore
    · exact List.mem_rtakeWhile_imp hafter
  · intro hfirst
    have hhead : (lines.dropWhile List.isEmpty).head? = some [] := by
      rw [← hend, List.head?_append, hfirst]
      rfl
    have hsolid := List.head?_dropWhile_not List.isEmpty lines
    rw [hhead] at hsolid
    cases hsolid
  · intro hlast
    obtain ⟨hne, hempty⟩ := List.mem_getLast?_eq_getLast hlast
    have hsolid := List.rdropWhile_last_not List.isEmpty (lines.dropWhile List.isEmpty) hne
    exact hsolid (List.isEmpty_iff.mpr hempty.symm)

/-- The quote is the first of the default markers. -/
theorem stripMarker_quote (t : Text) :
    stripMarker ({} : Options).commentMarkers ('\'' :: t) = t.strip := by
  have hfound : ({} : Options).commentMarkers.find? (startsWithMarker · ('\'' :: t)) =
      some "'".toList := rfl
  rw [stripMarker, hfound]
  rfl

/-- Behind a quote the default markers leave a line of a block as it would be
without. -/
theorem stripMarker_quoted {line : Text} (hline : IsFramed line) :
    stripMarker ({} : Options).commentMarkers (Text.strip ("' ".toList ++ line)) =
      line.strip := by
  obtain ⟨before, after, hsplit, hbefore, hafter⟩ := line.exists_eq_strip_between
  obtain ⟨d, rest, hstrip, -⟩ := hline
  have htrimmed : Text.Trimmed ('\'' :: ' ' :: before ++ line.strip) := by
    refine ⟨?_, ?_⟩
    · intro c hc
      obtain rfl := Option.some.inj hc
      decide
    · intro c hc
      have hlast : ('\'' :: ' ' :: before ++ line.strip).getLast? = line.strip.getLast? := by
        rw [List.getLast?_append, hstrip, List.getLast?_cons]
        rfl
      rw [hlast] at hc
      exact line.trimmed_strip.ends c hc
  have hquoted : Text.strip ("' ".toList ++ line) = '\'' :: ' ' :: before ++ line.strip := by
    have hbetween : Text.strip ([] ++ ('\'' :: ' ' :: before ++ line.strip) ++ after) =
        '\'' :: ' ' :: before ++ line.strip :=
      Text.strip_between (by simp) htrimmed hafter
    have hline : "' ".toList ++ line =
        [] ++ ('\'' :: ' ' :: before ++ line.strip) ++ after := by
      nth_rewrite 1 [hsplit]
      simp
    rw [hline, hbetween]
  have hblanks : ∀ c ∈ ' ' :: before, isBlank c = true := by
    intro c hc
    rcases List.mem_cons.mp hc with rfl | hmem
    · decide
    · exact hbefore c hmem
  have hrest : Text.strip (' ' :: before ++ line.strip ++ []) = line.strip :=
    Text.strip_between hblanks line.trimmed_strip (by simp)
  rw [List.append_nil] at hrest
  rw [hquoted, List.cons_append, stripMarker_quote, hrest]

theorem rawBodyLines_map_of_bodyLine {markers lines : List Text} {f : Text → Text}
    (h : ∀ first, ∀ line ∈ lines, bodyLine markers first (f line) = bodyLine markers first line) :
    rawBodyLines markers (lines.map f) = rawBodyLines markers lines := by
  cases lines with
  | nil => rfl
  | cons line rest =>
      have hrest : (rest.map f).map (bodyLine markers false) =
          rest.map (bodyLine markers false) := by
        rw [List.map_map]
        apply List.map_congr_left
        intro other hother
        exact h false other (List.mem_cons_of_mem line hother)
      rw [List.map_cons, rawBodyLines, rawBodyLines, h true line List.mem_cons_self, hrest]

theorem rawBodyLines_quoted {lines : List Text} (hlines : ∀ line ∈ lines, IsFramed line) :
    rawBodyLines ({} : Options).commentMarkers (lines.map ("' ".toList ++ ·)) =
      rawBodyLines ({} : Options).commentMarkers lines := by
  have hheads : ∀ marker ∈ ({} : Options).commentMarkers,
      marker.head?.any isFrameChar = false := by
    decide
  have hmarkers : ∀ marker ∈ ({} : Options).commentMarkers,
      ∀ c ∈ marker.head?, isFrameChar c = false := by
    intro marker hmarker c hc
    have hhead := hheads marker hmarker
    rw [Option.mem_def.mp hc] at hhead
    exact hhead
  apply rawBodyLines_map_of_bodyLine
  intro first line hline
  have hframed := hlines line hline
  simp only [bodyLine, stripMarker_quoted hframed, stripMarker_of_isFramed hmarkers hframed]

/-- A printed block of trimmed lines reads back as these lines, with closers
escaped and without the empty lines at the ends, under all markers that are not
taken for the frame of the block.  Under the default ones it also does with a
quote in front of each of its lines. -/
theorem bodyOf_render (block : DocBlock)
    (hlines : ∀ line ∈ block.lines, '\n' ∉ line ∧ line.strip = line) :
    ∃ body, IsTrimOf block.lines body ∧
      (∀ options : Options,
        (∀ marker ∈ options.commentMarkers,
          marker.head? ≠ some '*' ∧ marker.head? ≠ some '/') →
        bodyOf options block.render = body.map escapeCloser) ∧
      bodyOf {} (Text.unlines (block.render.lines.map ("' ".toList ++ ·))) =
        body.map escapeCloser := by
  have hnewline : ∀ line ∈ block.lines, '\n' ∉ line := fun line hline => (hlines line hline).1
  have htrimmed : ∀ line ∈ block.lines, line.Trimmed := fun line hline =>
    (Text.strip_eq_self_iff line).mp (hlines line hline).2
  have hprinted : ∀ options : Options,
      (∀ marker ∈ options.commentMarkers,
        marker.head? ≠ some '*' ∧ marker.head? ≠ some '/') →
      trimLines (rawBodyLines options.commentMarkers block.printedLines) =
        (trimLines block.lines).map escapeCloser := by
    intro options hoptions
    have hmarkers : ∀ marker ∈ options.commentMarkers,
        ∀ c ∈ marker.head?, isFrameChar c = false := by
      intro marker hmarker c hc
      rw [Bool.eq_false_iff]
      intro hframe
      rcases (isFrameChar_iff c).mp hframe with rfl | rfl
      · exact (hoptions marker hmarker).1 hc
      · exact (hoptions marker hmarker).2 hc
    rw [rawBodyLines_printedLines hmarkers htrimmed, trimLines_cons_nil, trimLines_append_nil,
      trimLines_map_escapeCloser]
  refine ⟨trimLines block.lines, isTrimOf_trimLines block.lines, ?_, ?_⟩
  · intro options hoptions
    rw [bodyOf, DocBlock.lines_render hnewline]
    exact hprinted options hoptions
  · have hquoted : Text.lines (Text.unlines (block.printedLines.map ("' ".toList ++ ·))) =
        block.printedLines.map ("' ".toList ++ ·) := by
      apply List.splitOn_intercalate
      · intro line hline
        obtain ⟨printed, hmem, rfl⟩ := List.mem_map.mp hline
        intro hmark
        rcases List.mem_append.mp hmark with hquote | hprintedLine
        · revert hquote
          decide
        · exact newline_notMem_printedLines hnewline printed hmem hprintedLine
      · simp [DocBlock.printedLines]
    rw [bodyOf, DocBlock.lines_render hnewline, hquoted,
      rawBodyLines_quoted (isFramed_of_mem_printedLines htrimmed)]
    exact hprinted {} (by decide)

namespace ReadBackWitness

/-- A block whose lines look like the frame of a block themselves. -/
def starred : DocBlock :=
  .ofEntries [(.text, []), (.text, "** not a star **/ kept".toList), (.text, []),
    (.text, "/* nor an opener */".toList), (.text, "REM 'quoted'".toList), (.text, [])]

def markers : Options := { commentMarkers := ["#*".toList, "rem".toList, "\\".toList] }

end ReadBackWitness

theorem bodyOf_render_starred :
    ∃ body, IsTrimOf ReadBackWitness.starred.lines body ∧
      bodyOf ReadBackWitness.markers ReadBackWitness.starred.render = body.map escapeCloser ∧
      bodyOf {} (Text.unlines
        (ReadBackWitness.starred.render.lines.map ("' ".toList ++ ·))) =
          body.map escapeCloser := by
  obtain ⟨body, htrim, hprinted, hquoted⟩ :=
    bodyOf_render ReadBackWitness.starred (by decide +kernel)
  exact ⟨body, htrim, hprinted ReadBackWitness.markers (by decide), hquoted⟩

end DocWeave
