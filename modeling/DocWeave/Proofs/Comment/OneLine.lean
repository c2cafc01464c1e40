/-
Blocks on one line.  Where something stands between the stars of the opener and
those of the closer, be it only a blank, the body of the block is just that, less
the blanks around it.  Where nothing does, the closer takes the stars of the opener
with it, and the slash of the opener is left as the body.
-/
import DocWeave.Proofs.Comment.ReadBack
import DocWeave.Proofs.Tag.Anatomy

namespace DocWeave

/-- A block on one line: an opener with some stars, what stands inside, and a closer
with some stars. -/
def oneLineBlock (opening closing : Nat) (inside : Text) : Text :=
  '/' :: (List.replicate opening '*' ++ (inside ++ (List.replicate closing '*' ++ ['/'])))

theorem isRun_stars (n : Nat) {rest : Text} (h : rest.head? ≠ some '*') :
    IsRun (· == '*') (List.replicate n '*') rest where
  all := by
    intro c hc
    rw [List.eq_of_mem_replicate hc]
    rfl
  ends := by
    intro c hc
    rw [beq_eq_false_iff_ne]
    rintro rfl
    exact h hc

/-- All stars at the end go, and nothing else. -/
theorem dropEndWhile_stars {t : Text} (h : t.getLast? ≠ some '*') (n : Nat) :
    Text.dropEndWhile (· == '*') (t ++ List.replicate n '*') = t := by
  have hrun : IsRun (· == '*') (List.replicate n '*') t.reverse :=
    isRun_stars n (by rwa [List.head?_reverse])
  rw [Text.dropEndWhile, List.reverse_append, List.reverse_replicate, hrun.dropWhile_eq,
    List.reverse_reverse]

/-- The closer goes with all stars right before it and with the blanks before these. -/
theorem dropCloser_append (t : Text) (n : Nat) :
    dropCloser (t ++ (List.replicate (n + 1) '*' ++ ['/'])) =
      Text.trimEnd (Text.dropEndWhile (· == '*') (t ++ List.replicate n '*')) := by
  have hreverse : (t ++ (List.replicate (n + 1) '*' ++ ['/'])).reverse =
      '/' :: '*' :: (t ++ List.replicate n '*').reverse := by
    rw [List.reverse_append, List.reverse_append, List.reverse_replicate, List.reverse_append,
      List.reverse_replicate]
    rfl
  rw [dropCloser, hreverse]
  simp only [Text.trimEnd, Text.dropEndWhile, List.reverse_reverse]

theorem Text.strip_trimEnd (t : Text) : Text.strip t.trimEnd = t.strip := by
  obtain ⟨before, after, hsplit, hbefore, hafter⟩ := t.trimEnd.exists_eq_strip_between
  have hend : t.trimEnd ++ t.rtakeWhile isBlank = t := List.rdropWhile_append_rtakeWhile
  have hblanks : ∀ c ∈ after ++ t.rtakeWhile isBlank, isBlank c = true := by
    intro c hc
    rcases List.mem_append.mp hc with hmem | hmem
    · exact hafter c hmem
    · exact List.mem_rtakeWhile_imp hmem
  have hstrip := Text.strip_between hbefore t.trimEnd.trimmed_strip hblanks
  rw [← List.append_assoc, ← hsplit, hend] at hstrip
  exact hstrip.symm

/-- An opener has no blanks to lose. -/
theorem trimmed_opener (n : Nat) : Text.Trimmed ('/' :: List.replicate n '*') := by
  have hsolid : ∀ c ∈ '/' :: List.replicate n '*', isBlank c = false := by
    intro c hc
    rcases List.mem_cons.mp hc with rfl | hmem
    · rfl
    · rw [List.eq_of_mem_replicate hmem]
      rfl
  exact ⟨fun c hc => hsolid c (List.mem_of_head? hc),
    fun c hc => hsolid c (List.mem_of_getLast? hc)⟩

/-- Of a block with something inside, the closer and the opener go, and all their
stars with them. -/
theorem unframed_oneLineBlock {inside : Text} (hne : inside ≠ [])
    (hfirst : inside.head? ≠ some '*') (hlast : inside.getLast? ≠ some '*') (m n : Nat) :
    dropOpener (dropStars (dropCloser (oneLineBlock (m + 1) (n + 1) inside))) =
      inside.strip := by
  let opener : Text := '/' :: List.replicate (m + 1) '*'
  have hopener : opener.Trimmed := trimmed_opener (m + 1)
  have hblock : oneLineBlock (m + 1) (n + 1) inside =
      opener ++ inside ++ (List.replicate (n + 1) '*' ++ ['/']) := by
    simp [oneLineBlock, opener]
  have hend : (opener ++ inside).getLast? ≠ some '*' := by
    rwa [List.getLast?_append_of_ne_nil opener hne]
  have hsolid : Text.StartsSolid (opener ++ inside) := hopener.starts
  have hstrip : Text.strip (opener ++ inside) = opener ++ inside.trimEnd :=
    Text.strip_append_of_trimmed (List.cons_ne_nil _ _) hopener inside
  have hcloser : dropCloser (oneLineBlock (m + 1) (n + 1) inside) =
      Text.strip (opener ++ inside) := by
    rw [hblock, dropCloser_append, dropEndWhile_stars hend, Text.strip,
      Text.trimStart_of_startsSolid hsolid]
  have hstars : dropStars (Text.strip (opener ++ inside)) = opener ++ inside.trimEnd := by
    have hslash : (opener ++ inside.trimEnd).dropWhile (· == '*') = opener ++ inside.trimEnd := rfl
    rw [hstrip, dropStars, hslash, ← hstrip, Text.strip_of_trimmed (Text.trimmed_strip _)]
  have hrest : inside.trimEnd.head? ≠ some '*' := by
    obtain ⟨blanks, hblanks⟩ : inside.trimEnd <+: inside := List.rdropWhile_prefix isBlank inside
    intro hhead
    rw [← hblanks, List.head?_append, hhead] at hfirst
    exact hfirst rfl
  calc dropOpener (dropStars (dropCloser (oneLineBlock (m + 1) (n + 1) inside)))
      = dropOpener (opener ++ inside.trimEnd) := by rw [hcloser, hstars]
    _ = dropStars (List.replicate m '*' ++ inside.trimEnd) := rfl
    _ = inside.strip := by
        rw [dropStars, (isRun_stars m hrest).dropWhile_eq, Text.strip_trimEnd]

/-- Of a block without anything inside, the slash of the opener stays. -/
theorem unframed_oneLineBlock_nil (m n : Nat) :
    dropOpener (dropStars (dropCloser (oneLineBlock m (n + 1) []))) = ['/'] := by
  have hblock : oneLineBlock m (n + 1) [] =
      ['/'] ++ List.replicate m '*' ++ (List.replicate (n + 1) '*' ++ ['/']) := rfl
  have hstars : Text.dropEndWhile (· == '*')
      (['/'] ++ List.replicate m '*' ++ List.replicate n '*') = ['/'] := by
    rw [List.append_assoc, List.replicate_append_replicate, dropEndWhile_stars (by decide)]
  rw [hblock, dropCloser_append, hstars]
  decide

/-- Behind the default marker, a block on one line is read as the block. -/
theorem bodyOf_quoted_oneLineBlock {inside : Text} (h : '\n' ∉ inside) (opening closing : Nat) :
    bodyOf {} ("' ".toList ++ oneLineBlock opening closing inside) =
      trimLines [dropOpener (dropStars (dropCloser (oneLineBlock opening closing inside)))] := by
  let block := oneLineBlock opening closing inside
  have hnewline : '\n' ∉ "' ".toList ++ block := by
    have hstars : ∀ n, '\n' ∉ List.replicate n '*' := fun n hmem =>
      absurd (List.eq_of_mem_replicate hmem) (by decide)
    simp [block, oneLineBlock, h, hstars]
  have htrimmed : block.Trimmed := by
    refine ⟨?_, ?_⟩
    · rintro c ⟨rfl⟩
      rfl
    · intro c hc
      have hlast : block.getLast? = some '/' := by
        simp [block, oneLineBlock, List.getLast?_cons]
      rw [hlast] at hc
      obtain rfl := Option.some.inj hc
      rfl
  have hstrip : block.strip = block := Text.strip_of_trimmed htrimmed
  have hframed : IsFramed block := ⟨'/', _, hstrip, rfl⟩
  have hlines : Text.lines ("' ".toList ++ block) = ["' ".toList ++ block] :=
    List.splitOn_eq_singleton hnewline
  rw [bodyOf, hlines, rawBodyLines, bodyLine, stripMarker_quoted hframed, hstrip]
  rfl

theorem star_notMem_of_blank {t : Text} (h : ∀ c ∈ t, isBlank c = true) : '*' ∉ t := by
  intro hmem
  have hstar : isBlank '*' = true := h '*' hmem
  cases hstar

theorem trimLines_singleton (line : Text) :
    trimLines [line] = if line = [] then [] else [line] := by
  cases line <;> rfl

/-- A block on one line with a body or a blank between its stars has that body and
no other line, and no line at all if the body is empty.  With nothing between its
stars it has the slash of its opener as its body. -/
theorem bodyOf_oneLineBlock (opening closing : Nat) (before body after : Text)
    (hopening : 1 ≤ opening) (hclosing : 1 ≤ closing)
    (hbefore : ∀ c ∈ before, isBlank c = true ∧ c ≠ '\n')
    (hafter : ∀ c ∈ after, isBlank c = true ∧ c ≠ '\n')
    (hnewline : '\n' ∉ body) (hstrip : body.strip = body)
    (hfirst : body.head? ≠ some '*') (hlast : body.getLast? ≠ some '*') :
    (before ++ body ++ after ≠ [] →
      bodyOf {} ("' ".toList ++ oneLineBlock opening closing (before ++ body ++ after)) =
        if body = [] then [] else [body]) ∧
    (before ++ body ++ after = [] →
      bodyOf {} ("' ".toList ++ oneLineBlock opening closing (before ++ body ++ after)) =
        [['/']]) := by
  obtain ⟨m, rfl⟩ := Nat.exists_eq_add_of_le' hopening
  obtain ⟨n, rfl⟩ := Nat.exists_eq_add_of_le' hclosing
  have hblanks : ∀ c ∈ before, isBlank c = true := fun c hc => (hbefore c hc).1
  have hblanks' : ∀ c ∈ after, isBlank c = true := fun c hc => (hafter c hc).1
  have hinside : (before ++ body ++ after).strip = body :=
    Text.strip_between hblanks ((Text.strip_eq_self_iff body).mp hstrip) hblanks'
  have hlines : '\n' ∉ before ++ body ++ after := by
    intro hmem
    rcases List.mem_append.mp hmem with hmem | hmem
    · rcases List.mem_append.mp hmem with hmem | hmem
      · exact (hbefore _ hmem).2 rfl
      · exact hnewline hmem
    · exact (hafter _ hmem).2 rfl
  rw [bodyOf_quoted_oneLineBlock hlines]
  constructor
  · intro hne
    have hhead : (before ++ body ++ after).head? ≠ some '*' := by
      intro hstar
      rw [List.head?_append, List.head?_append, Option.or_eq_some_iff,
        Option.or_eq_some_iff] at hstar
      rcases hstar with (hmem | ⟨-, hmem⟩) | ⟨-, hmem⟩
      · exact star_notMem_of_blank hblanks (List.mem_of_head? hmem)
      · exact hfirst hmem
      · exact star_notMem_of_blank hblanks' (List.mem_of_head? hmem)
    have hend : (before ++ body ++ after).getLast? ≠ some '*' := by
      intro hstar
      rw [List.getLast?_append, List.getLast?_append, Option.or_eq_some_iff,
        Option.or_eq_some_iff] at hstar
      rcases hstar with hmem | ⟨-, hmem | ⟨-, hmem⟩⟩
      · exact star_notMem_of_blank hblanks' (List.mem_of_getLast? hmem)
      · exact hlast hmem
      · exact star_notMem_of_blank hblanks (List.mem_of_getLast? hmem)
    rw [unframed_oneLineBlock hne hhead hend, hinside, trimLines_singleton]
  · intro hnil
    rw [hnil, unframed_oneLineBlock_nil]
    rfl

/-- A body that looks like comment marks itself, with a tab in front and stars right
behind, and a block with a blank alone. -/
theorem bodyOf_oneLineBlock_slashed :
    bodyOf {} ("' ".toList ++ oneLineBlock 2 3 (['\t'] ++ "/* REM */".toList ++ [])) =
        ["/* REM */".toList] ∧
      bodyOf {} ("' ".toList ++ oneLineBlock 2 1 ([' '] ++ [] ++ [])) = [] := by
  have htab : ∀ c ∈ ['\t'], isBlank c = true ∧ c ≠ '\n' :=
    List.forall_mem_singleton.mpr (by decide)
  have hspace : ∀ c ∈ [' '], isBlank c = true ∧ c ≠ '\n' :=
    List.forall_mem_singleton.mpr (by decide)
  constructor
  · exact (bodyOf_oneLineBlock 2 3 ['\t'] "/* REM */".toList [] (by decide) (by decide) htab nofun
      (by decide) (by decide) (by decide) (by decide)).1 (by decide)
  · exact (bodyOf_oneLineBlock 2 1 [' '] [] [] (by decide) (by decide) hspace nofun
      (by decide) (by decide) (by decide) (by decide)).1 (by decide)

/-- An opener `/**` and a closer `**/` with nothing between them leave a slash. -/
theorem bodyOf_oneLineBlock_touching :
    bodyOf {} ("' ".toList ++ oneLineBlock 2 2 []) = [['/']] ∧
      bodyOf {} ("' ".toList ++ oneLineBlock 2 2 []) ≠ [] := by
  decide

end DocWeave
