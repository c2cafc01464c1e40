/-
Offsets.  A position in a text also has a place among all its characters, and a
range between two such positions covers exactly the characters between their
places.  Ranges that follow one another cover together what one range from the
first start to the last stop does, and the default of a parameter is what its
range covers, without the blanks around.
-/
import DocWeave.Proofs.Emission.CodeText
import DocWeave.Shape.Basic

namespace DocWeave

/-- A position on a line of a text, in front of one of its characters or at its
end. -/
structure Position.LiesIn (p : Position) (source : Text) : Prop where
  line_pos : 1 ≤ p.line
  line_le : p.line ≤ source.lines.length
  column_nonneg : 0 ≤ p.column
  column_le : p.column ≤ (source.lines.getD (p.line.toNat - 1) []).length

/-- The number of characters before a position: those of the lines before its
own, a line feed for each of these lines, and its column. -/
def Position.offset (source : Text) (p : Position) : Nat :=
  (source.lines.take (p.line.toNat - 1)).flatten.length + (p.line.toNat - 1) + p.column.toNat

/-- A range between two positions of a text, the second one not before the first. -/
structure SourceRange.LiesIn (range : SourceRange) (source : Text) : Prop where
  start : range.start.LiesIn source
  stop : range.stop.LiesIn source
  ordered : range.start ≤ range.stop

/-- The characters of a text between the places of a range. -/
def SourceRange.covered (range : SourceRange) (source : Text) : Text :=
  source.extract (range.start.offset source) (range.stop.offset source)

/-- Lines with a line feed behind each of them. -/
def endedLines (ls : List Text) : Text :=
  ls.flatMap (· ++ ['\n'])

theorem endedLines_append (ls ms : List Text) :
    endedLines (ls ++ ms) = endedLines ls ++ endedLines ms := by
  rw [endedLines, List.flatMap_append]
  rfl

theorem endedLines_cons (line : Text) (rest : List Text) :
    endedLines (line :: rest) = line ++ '\n' :: endedLines rest := by
  simp [endedLines]

theorem length_endedLines (ls : List Text) :
    (endedLines ls).length = ls.flatten.length + ls.length := by
  induction ls with
  | nil => rfl
  | cons line rest ih =>
      rw [endedLines_cons, List.length_append, List.length_cons, ih, List.flatten_cons,
        List.length_append, List.length_cons]
      omega

/-- Lines before others are ended by a line feed each. -/
theorem Text.unlines_append_of_ne_nil (before : List Text) {ls : List Text} (hne : ls ≠ []) :
    Text.unlines (before ++ ls) = endedLines before ++ Text.unlines ls := by
  induction before with
  | nil => rfl
  | cons line rest ih =>
      obtain ⟨next, more, hnext⟩ := List.exists_cons_of_ne_nil (List.append_ne_nil_of_right_ne_nil
        rest hne)
      rw [Text.unlines, Text.unlines, hnext] at ih
      rw [List.cons_append, hnext, Text.unlines, List.intercalate_cons_cons, ih, endedLines_cons,
        Text.unlines]
      simp

theorem cutTail_concat (last : Int) (ls : List Text) (line : Text) :
    cutTail last (ls ++ [line]) = endedLines ls ++ line.sliceTo last := by
  induction ls with
  | nil => rfl
  | cons first rest ih =>
      obtain ⟨next, more, hnext⟩ := List.exists_cons_of_ne_nil (List.concat_ne_nil line rest)
      rw [List.cons_append, hnext, cutTail, ← hnext, ih, endedLines_cons, List.append_assoc]
      rfl

theorem Text.sliceTo_natCast {last : Nat} {t : Text} (h : last ≤ t.length) :
    t.sliceTo last = t.take last := by
  rw [Text.sliceTo, clampIndex_natCast h]

/-- Lines cut at both ends are the lines cut at the last one, less the
characters before the first column. -/
theorem cutLines_concat {first last : Nat} {ls : List Text} {line : Text}
    (hfirst : first ≤ ((ls ++ [line]).headD []).length) (hlast : last ≤ line.length) :
    cutLines first last (ls ++ [line]) = (endedLines ls ++ line.take last).drop first := by
  cases ls with
  | nil =>
      have hline : first ≤ line.length := hfirst
      rw [List.nil_append, cutLines, Text.slice, Text.sliceTo_natCast hlast,
        clampIndex_natCast hline]
      rfl
  | cons start rest =>
      have hstart : first ≤ start.length := hfirst
      obtain ⟨next, more, hnext⟩ := List.exists_cons_of_ne_nil (List.concat_ne_nil line rest)
      rw [List.cons_append, hnext, cutLines, ← hnext, cutTail_concat, Text.sliceFrom,
        clampIndex_natCast hstart, Text.sliceTo_natCast hlast, endedLines_cons, List.append_assoc,
        List.drop_append_of_le_length hstart]
      rfl

/-- Lines taken apart at two of them. -/
theorem exists_lines_between {lines : List Text} {m n : Nat} (hmn : m ≤ n)
    (hn : n < lines.length) :
    ∃ before between line after, lines = before ++ (between ++ line :: after) ∧
      before.length = m ∧ (before ++ between).length = n ∧
      (between ++ [line]).headD [] = lines.getD m [] ∧ line = lines.getD n [] := by
  let before := lines.take m
  let between := (lines.take n).drop m
  have hbefore : before.length = m := List.length_take_of_le (by omega)
  have hfront : before ++ between = lines.take n := by
    have htake : (lines.take n).take m = before := by
      rw [List.take_take, Nat.min_eq_left hmn]
    rw [← htake, List.take_append_drop]
  have hlines : lines = before ++ (between ++ lines[n] :: lines.drop (n + 1)) := by
    rw [← List.append_assoc, hfront, List.getElem_cons_drop, List.take_append_drop]
  refine ⟨before, between, lines[n], lines.drop (n + 1), hlines, hbefore, ?_, ?_, ?_⟩
  · rw [hfront, List.length_take_of_le (by omega)]
  · rw [List.getD_eq_getElem?_getD, ← List.head?_drop]
    nth_rewrite 2 [hlines]
    rw [← hbefore, List.drop_left]
    cases between <;> rfl
  · rw [List.getD_eq_getElem?_getD, List.getElem?_eq_getElem hn, Option.getD_some]

/-- A range as it lies in a text: the lines before its first one, those from there
to its last one, the last one itself and the lines after it, with the columns
between which it runs. -/
structure SourceRange.Splits (range : SourceRange) (source : Text)
    (before between : List Text) (line : Text) (after : List Text) (first last : Nat) :
    Prop where
  lines : source.lines = before ++ (between ++ line :: after)
  start_line : range.start.line = before.length + 1
  start_column : range.start.column = first
  stop_line : range.stop.line = (before ++ between).length + 1
  stop_column : range.stop.column = last
  first_le : first ≤ ((between ++ [line]).headD []).length
  last_le : last ≤ line.length
  ordered : first ≤ (endedLines between).length + last

section Ranges

variable {range : SourceRange} {source : Text}

theorem SourceRange.LiesIn.exists_splits (h : range.LiesIn source) :
    ∃ before between line after first last,
      range.Splits source before between line after first last := by
  obtain ⟨⟨hstart, -, hfirst, hwidth⟩, ⟨hstop, hcount, hlast, hwidth'⟩, hordered⟩ := h
  rw [Position.le_iff] at hordered
  have hupTo : range.start.line.toNat - 1 ≤ range.stop.line.toNat - 1 := by omega
  have hinside : range.stop.line.toNat - 1 < source.lines.length := by omega
  obtain ⟨before, between, line, after, hlines, hbefore, hbetween, hhead, hline⟩ :=
    exists_lines_between hupTo hinside
  rw [← hhead] at hwidth
  rw [← hline] at hwidth'
  refine ⟨before, between, line, after, range.start.column.toNat, range.stop.column.toNat,
    hlines, by omega, by omega, by omega, by omega, by omega, by omega, ?_⟩
  cases between with
  | nil =>
      rw [List.append_nil] at hbetween
      rw [endedLines, List.flatMap_nil, List.length_nil]
      omega
  | cons next rest =>
      have hnext : range.start.column ≤ next.length := hwidth
      rw [endedLines_cons, List.length_append]
      omega

section Splits

variable {before between after : List Text} {line : Text} {first last : Nat}
  (h : range.Splits source before between line after first last)

include h

theorem SourceRange.Splits.slice_eq :
    range.slice source.lines = (endedLines between ++ line.take last).drop first := by
  have hstart := h.start_line
  have hstop := h.stop_line
  have hlast : range.stop.line.toNat = (before ++ between).length + 1 := by omega
  have hfirst : range.start.line.toNat - 1 = before.length := by omega
  have hlines : source.lines = before ++ between ++ line :: after := by
    rw [h.lines, List.append_assoc]
  have hfits : range.Fits source.lines := by
    have hlength := congrArg List.length hlines
    simp only [List.length_append, List.length_cons] at hlength hstop
    refine ⟨?_, ?_, ?_⟩ <;> omega
  have hcut : (source.lines.take ((before ++ between).length + 1)).drop before.length =
      between ++ [line] := by
    rw [hlines, List.take_length_add_append, List.append_assoc, List.drop_left]
    rfl
  rw [SourceRange.slice, if_pos hfits, hlast, hfirst, hcut, h.start_column, h.stop_column,
    cutLines_concat h.first_le h.last_le]

theorem SourceRange.Splits.offset_start :
    range.start.offset source = (endedLines before).length + first := by
  have hline : range.start.line.toNat - 1 = before.length := by
    have hstart := h.start_line
    omega
  rw [Position.offset, hline, h.lines, List.take_left, length_endedLines, h.start_column,
    Int.toNat_natCast]

theorem SourceRange.Splits.offset_stop :
    range.stop.offset source = (endedLines (before ++ between)).length + last := by
  have hline : range.stop.line.toNat - 1 = (before ++ between).length := by
    have hstop := h.stop_line
    omega
  rw [Position.offset, hline, h.lines, ← List.append_assoc, List.take_left, length_endedLines,
    h.stop_column, Int.toNat_natCast]

theorem SourceRange.Splits.offset_le :
    range.start.offset source ≤ range.stop.offset source := by
  have hordered := h.ordered
  rw [h.offset_start, h.offset_stop, endedLines_append, List.length_append]
  omega

/-- The text up to the end of a range. -/
theorem SourceRange.Splits.take_offset_stop :
    source.take (range.stop.offset source) =
      endedLines before ++ (endedLines between ++ line.take last) := by
  have hsource : source = endedLines (before ++ between) ++ Text.unlines (line :: after) := by
    rw [← Text.unlines_append_of_ne_nil _ (List.cons_ne_nil line after), List.append_assoc,
      ← h.lines]
    exact (List.intercalate_splitOn '\n').symm
  rw [h.offset_stop, hsource, List.take_length_add_append, Text.unlines_cons,
    List.take_append_of_le_length h.last_le, endedLines_append, List.append_assoc]

theorem SourceRange.Splits.covered_eq :
    range.covered source = (endedLines between ++ line.take last).drop first := by
  rw [SourceRange.covered, List.extract_eq_take_drop, ← List.drop_take, h.take_offset_stop,
    h.offset_start, List.drop_length_add_append]

end Splits

theorem SourceRange.LiesIn.slice_eq_covered (h : range.LiesIn source) :
    range.slice source.lines = range.covered source := by
  obtain ⟨before, between, line, after, first, last, hsplits⟩ := h.exists_splits
  rw [hsplits.slice_eq, hsplits.covered_eq]

theorem SourceRange.LiesIn.offset_le (h : range.LiesIn source) :
    range.start.offset source ≤ range.stop.offset source := by
  obtain ⟨before, between, line, after, first, last, hsplits⟩ := h.exists_splits
  exact hsplits.offset_le

/-- What two ranges cover that follow one another. -/
theorem SourceRange.LiesIn.covered_append {next : SourceRange} (h : range.LiesIn source)
    (hnext : next.LiesIn source) (hadjacent : range.stop = next.start) :
    range.covered source ++ next.covered source =
      SourceRange.covered ⟨range.start, next.stop⟩ source := by
  have hle := h.offset_le
  have hle' := hnext.offset_le
  rw [← hadjacent] at hle'
  simp only [SourceRange.covered, ← hadjacent, List.extract_eq_take_drop]
  generalize range.start.offset source = a, range.stop.offset source = b,
    next.stop.offset source = c at hle hle'
  have hlength : c - a = (b - a) + (c - b) := by omega
  have hplace : a + (b - a) = b := by omega
  rw [hlength, List.take_add, List.drop_drop, hplace]

theorem Position.le_trans {p q r : Position} (hpq : p ≤ q) (hqr : q ≤ r) : p ≤ r := by
  rw [Position.le_iff] at hpq hqr ⊢
  omega

theorem SourceRange.LiesIn.union {next : SourceRange} (h : range.LiesIn source)
    (hnext : next.LiesIn source) (hadjacent : range.stop = next.start) :
    SourceRange.LiesIn ⟨range.start, next.stop⟩ source where
  start := h.start
  stop := hnext.stop
  ordered := Position.le_trans h.ordered (hadjacent ▸ hnext.ordered)

end Ranges

/-- The slice of a range in a text is what stands between the offsets of its ends.
Slices of adjacent ranges make up the slice of both together, the default of a
parameter is the stripped text of its range, and a range that starts before the
first line, stops behind the last one or stops on a line before its start has
an empty slice. -/
theorem SourceRange.slice_eq_between_offsets (source : Text) :
    (∀ range : SourceRange, range.LiesIn source →
      range.slice source.lines =
        source.extract (range.start.offset source) (range.stop.offset source)) ∧
    (∀ range next : SourceRange, range.LiesIn source → next.LiesIn source →
      range.stop = next.start →
      range.slice source.lines ++ next.slice source.lines =
        SourceRange.slice ⟨range.start, next.stop⟩ source.lines) ∧
    (∀ (options : Options) (p : Param) (range : SourceRange), p.default = some range →
      range.LiesIn source →
      (Parameter.of options source.lines p).default = some (Text.strip
        (source.extract (range.start.offset source) (range.stop.offset source)))) ∧
    ∀ range : SourceRange,
      range.start.line < 1 ∨ source.lines.length < range.stop.line ∨
        range.stop.line < range.start.line →
      range.slice source.lines = [] := by
  refine ⟨?_, ?_, ?_, ?_⟩
  · intro range h
    exact h.slice_eq_covered
  · intro range next h hnext hadjacent
    rw [h.slice_eq_covered, hnext.slice_eq_covered, h.covered_append hnext hadjacent,
      (h.union hnext hadjacent).slice_eq_covered]
  · intro options p range hdefault h
    rw [Parameter.of, hdefault, Option.map_some, h.slice_eq_covered]
    rfl
  · intro range h
    apply SourceRange.slice_of_not_fits
    rintro ⟨hstart, hordered, hstop⟩
    omega

namespace OffsetsWitness

/-- A default over three lines, the second of which is empty. -/
def source : Text := "f(x = [1,\n\n 22 ])".toList

def opening : SourceRange := ⟨⟨1, 6⟩, ⟨2, 0⟩⟩

def closing : SourceRange := ⟨⟨2, 0⟩, ⟨3, 5⟩⟩

def param : Param := { name := "x".toList, default := some ⟨⟨1, 5⟩, ⟨3, 5⟩⟩ }

end OffsetsWitness

theorem SourceRange.slice_eq_between_offsets_list :
    OffsetsWitness.opening.LiesIn OffsetsWitness.source ∧
      OffsetsWitness.closing.LiesIn OffsetsWitness.source ∧
      OffsetsWitness.opening.slice OffsetsWitness.source.lines =
        OffsetsWitness.source.extract 6 10 ∧
      OffsetsWitness.opening.slice OffsetsWitness.source.lines ++
          OffsetsWitness.closing.slice OffsetsWitness.source.lines =
        SourceRange.slice ⟨⟨1, 6⟩, ⟨3, 5⟩⟩ OffsetsWitness.source.lines ∧
      (Parameter.of {} OffsetsWitness.source.lines OffsetsWitness.param).default =
        some "[1,\n\n 22 ]".toList ∧
      SourceRange.slice ⟨⟨2, 0⟩, ⟨4, 0⟩⟩ OffsetsWitness.source.lines = [] := by
  obtain ⟨hslice, hadjacent, hdefault, hempty⟩ :=
    SourceRange.slice_eq_between_offsets OffsetsWitness.source
  have hopening : OffsetsWitness.opening.LiesIn OffsetsWitness.source :=
    ⟨⟨by decide, by decide, by decide, by decide⟩, ⟨by decide, by decide, by decide, by decide⟩,
      by decide⟩
  have hclosing : OffsetsWitness.closing.LiesIn OffsetsWitness.source :=
    ⟨hopening.stop, ⟨by decide, by decide, by decide, by decide⟩, by decide⟩
  have hparam : SourceRange.LiesIn ⟨⟨1, 5⟩, ⟨3, 5⟩⟩ OffsetsWitness.source :=
    ⟨⟨by decide, by decide, by decide, by decide⟩, hclosing.stop, by decide⟩
  exact ⟨hopening, hclosing, hslice _ hopening, hadjacent _ _ hopening hclosing rfl,
    hdefault {} OffsetsWitness.param _ rfl hparam, hempty _ (by decide)⟩

end DocWeave
