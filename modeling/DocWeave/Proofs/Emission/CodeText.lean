/-
The code of a written file: what is left when its doc blocks are cut out.  A
block is cut from its opener to the next closer.  No line of a block can hold
a closer, so that exactly the block goes; and code without a slash can hold no
opener, so that nothing else does.
-/
import DocWeave.Proofs.Shape.Dotted
import DocWeave.Proofs.Tag.Escape

namespace DocWeave

/-- The text after the first closer `*/`. -/
def afterCloser? : Text → Option Text
  | [] => none
  | '*' :: '/' :: rest => some rest
  | _ :: rest => afterCloser? rest

/-- The text after a doc block at the start, from `/**` to the next `*/`. -/
def afterBlock? : Text → Option Text
  | '/' :: '*' :: '*' :: rest => afterCloser? rest
  | _ => none

theorem afterCloser?_length {t u : Text} (h : afterCloser? t = some u) :
    u.length < t.length := by
  fun_induction afterCloser? t with
  | case1 => cases h
  | case2 rest =>
      obtain rfl := Option.some.inj h
      simp only [List.length_cons]
      omega
  | case3 c rest _ ih =>
      have hrest := ih h
      simp only [List.length_cons]
      omega

theorem afterBlock?_length {t u : Text} (h : afterBlock? t = some u) :
    u.length < t.length := by
  fun_cases afterBlock? t with
  | case1 rest =>
      have hrest := afterCloser?_length h
      simp only [List.length_cons]
      omega
  | case2 => simp_all [afterBlock?]

/-- A text without its doc blocks. -/
def withoutDocs : Text → Text
  | [] => []
  | c :: rest =>
      match _h : afterBlock? (c :: rest) with
      | some later => withoutDocs later
      | none => c :: withoutDocs rest
termination_by t => t.length
decreasing_by
  · exact afterBlock?_length _h
  · exact Nat.lt_succ_self _

theorem withoutDocs_of_afterBlock? {t u : Text} (h : afterBlock? t = some u) :
    withoutDocs t = withoutDocs u := by
  cases t with
  | nil => cases h
  | cons c rest =>
      rw [withoutDocs]
      split
      · rename_i later hlater
        rw [h] at hlater
        rw [Option.some.inj hlater]
      · rename_i hnone
        rw [h] at hnone
        cases hnone

theorem withoutDocs_cons_of_ne {c : Char} (hc : c ≠ '/') (t : Text) :
    withoutDocs (c :: t) = c :: withoutDocs t := by
  have hnone : afterBlock? (c :: t) = none := by
    unfold afterBlock?
    split
    · rename_i heq
      exact absurd (List.cons.inj heq).1 hc
    · rfl
  rw [withoutDocs]
  split
  · rename_i later hlater
    rw [hnone] at hlater
    cases hlater
  · rfl

theorem withoutDocs_append {code : Text} (hcode : '/' ∉ code) (t : Text) :
    withoutDocs (code ++ t) = code ++ withoutDocs t := by
  induction code with
  | nil => rfl
  | cons c rest ih =>
      rw [List.mem_cons, not_or] at hcode
      rw [List.cons_append, withoutDocs_cons_of_ne (Ne.symm hcode.1), ih hcode.2,
        List.cons_append]

theorem Text.unlines_cons (line : Text) (rest : List Text) :
    Text.unlines (line :: rest) = line ++ rest.flatMap ('\n' :: ·) := by
  induction rest generalizing line with
  | nil => simp [Text.unlines]
  | cons next rest ih =>
      have hnext := ih next
      rw [Text.unlines] at hnext ⊢
      rw [List.intercalate_cons_cons, hnext, List.flatMap_cons]
      simp

/-- Text that cannot continue a star to a closer. -/
def StartsOff (t : Text) : Prop := t.head? ≠ some '/'

theorem afterCloser?_star {t : Text} (h : StartsOff t) :
    afterCloser? ('*' :: t) = afterCloser? t := by
  rw [afterCloser?]
  rintro rest - rfl
  exact h rfl

theorem afterCloser?_cons_of_ne {c : Char} (hc : c ≠ '*') (t : Text) :
    afterCloser? (c :: t) = afterCloser? t := by
  rw [afterCloser?]
  rintro rest rfl
  exact absurd rfl hc

theorem startsOff_escapeCloser_append {t u : Text} (ht : StartsOff t) (hu : StartsOff u) :
    StartsOff (escapeCloser t ++ u) := by
  fun_cases escapeCloser t with
  | case1 => simpa [escapeCloser] using hu
  | case2 rest => simp [StartsOff]
  | case3 c rest _ => simpa [StartsOff] using ht

/-- An escaped line is passed over in the search for a closer. -/
theorem afterCloser?_escapeCloser_append (t : Text) {u : Text} (hu : StartsOff u) :
    afterCloser? (escapeCloser t ++ u) = afterCloser? u := by
  fun_induction escapeCloser t with
  | case1 => rfl
  | case2 rest ih =>
      rw [List.cons_append, List.cons_append, List.cons_append,
        afterCloser?_star (by simp [StartsOff]), afterCloser?_cons_of_ne (by decide),
        afterCloser?_cons_of_ne (by decide), ih]
  | case3 c rest hrest ih =>
      rw [List.cons_append]
      by_cases hc : c = '*'
      · subst hc
        have hoff : StartsOff rest := by
          intro hslash
          obtain ⟨later, rfl⟩ := List.head?_eq_some_iff.mp hslash
          exact hrest later rfl rfl
        rw [afterCloser?_star (startsOff_escapeCloser_append hoff hu), ih]
      · rw [afterCloser?_cons_of_ne hc, ih]

theorem afterCloser?_framedLine_append (line : Text) {u : Text} (hu : StartsOff u) :
    afterCloser? ('\n' :: framedLine line ++ u) = afterCloser? u := by
  unfold framedLine
  split
  · change afterCloser? ('\n' :: ' ' :: '*' :: u) = afterCloser? u
    rw [afterCloser?_cons_of_ne (by decide), afterCloser?_cons_of_ne (by decide),
      afterCloser?_star hu]
  · change afterCloser? ('\n' :: ' ' :: '*' :: ' ' :: (escapeCloser line ++ u)) =
      afterCloser? u
    rw [afterCloser?_cons_of_ne (by decide), afterCloser?_cons_of_ne (by decide),
      afterCloser?_star (by simp [StartsOff]), afterCloser?_cons_of_ne (by decide),
      afterCloser?_escapeCloser_append line hu]

theorem afterCloser?_framedLines_append (lines : List Text) (u : Text) :
    afterCloser? (lines.flatMap (fun line => '\n' :: framedLine line) ++ "\n */".toList ++ u) =
      some u := by
  induction lines with
  | nil => rfl
  | cons line rest ih =>
      rw [List.flatMap_cons, List.append_assoc, List.append_assoc,
        afterCloser?_framedLine_append, ← List.append_assoc, ih]
      cases rest <;> simp [StartsOff]

/-- A printed block: the opener, each line on a line of its own, the closer. -/
theorem DocBlock.render_eq (block : DocBlock) :
    block.render = '/' :: '*' :: '*' ::
      (block.lines.flatMap (fun line => '\n' :: framedLine line) ++ "\n */".toList) := by
  rw [DocBlock.render, List.append_assoc, List.singleton_append, Text.unlines_cons]
  simp [List.flatMap_append, List.flatMap_map]

/-- A printed block is cut away as a whole. -/
theorem afterBlock?_render_append (block : DocBlock) (u : Text) :
    afterBlock? (block.render ++ u) = some u := by
  rw [block.render_eq]
  exact afterCloser?_framedLines_append block.lines u

/-- The code of a segment.  A block has none. -/
def Segment.code : Segment → Text
  | .block _ => []
  | .detached _ => []
  | segment => segment.text

theorem Segment.code_function (name : Text) (params : List Text) :
    (Segment.function name params).code = "function ".toList ++ stubText name params := rfl

theorem Segment.code_method (name : Text) (params : List Text) :
    (Segment.method name params).code = stubText name params := rfl

theorem Segment.code_classStart_none (name : Text) :
    (Segment.classStart name none).code = "class ".toList ++ name ++ " \x7b\n".toList := rfl

theorem Segment.code_classStart_some (name parent : Text) :
    (Segment.classStart name (some parent)).code =
      "class ".toList ++ name ++ " extends ".toList ++ parent ++ " \x7b\n".toList := rfl

theorem Segment.code_container (qualified : Text) :
    (Segment.container qualified).code =
      (if (parentOf? qualified).isSome then [] else "var ".toList) ++ qualified ++
        " = \x7b\x7d;".toList :=
  Segment.text_container qualified

theorem Segment.code_member (scope name : Text) :
    (Segment.member scope name).code =
      scope ++ '.' :: name ++ " = ".toList ++ name ++ ";".toList := rfl

theorem withoutDocs_segment_append {segment : Segment} (hcode : '/' ∉ segment.code)
    (t : Text) : withoutDocs (segment.text ++ t) = segment.code ++ withoutDocs t := by
  cases segment with
  | block b => exact withoutDocs_of_afterBlock? (afterBlock?_render_append b t)
  | detached b => exact withoutDocs_of_afterBlock? (afterBlock?_render_append b t)
  | _ => exact withoutDocs_append hcode t

theorem withoutDocs_flatMap_text {segments : List Segment}
    (hcode : ∀ segment ∈ segments, '/' ∉ segment.code) :
    withoutDocs (segments.flatMap fun segment => '\n' :: segment.text) =
      segments.flatMap fun segment => '\n' :: segment.code := by
  induction segments with
  | nil => simp [withoutDocs]
  | cons first rest ih =>
      have hrest : ∀ segment ∈ rest, '/' ∉ segment.code := fun segment hsegment =>
        hcode segment (List.mem_cons_of_mem first hsegment)
      rw [List.flatMap_cons, List.flatMap_cons, List.cons_append, List.cons_append,
        withoutDocs_cons_of_ne (by decide),
        withoutDocs_segment_append (hcode first List.mem_cons_self), ih hrest]

/-- A written file without its blocks is the code of its segments. -/
theorem withoutDocs_segmentsText {segments : List Segment}
    (hcode : ∀ segment ∈ segments, '/' ∉ segment.code) :
    withoutDocs (segmentsText segments) = Text.unlines (segments.map Segment.code) := by
  cases segments with
  | nil => simp [segmentsText, Text.unlines, withoutDocs]
  | cons first rest =>
      have hrest : ∀ segment ∈ rest, '/' ∉ segment.code := fun segment hsegment =>
        hcode segment (List.mem_cons_of_mem first hsegment)
      rw [segmentsText, List.map_cons, List.map_cons, Text.unlines_cons, Text.unlines_cons,
        List.flatMap_map, List.flatMap_map,
        withoutDocs_segment_append (hcode first List.mem_cons_self),
        withoutDocs_flatMap_text hrest]

end DocWeave
