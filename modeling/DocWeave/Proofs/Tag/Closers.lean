/-
Closers.  A printed block has one closer, and that is where it ends: none can
come about where its lines are escaped, framed and put together.  Escaping can
be undone, for a text that had no broken closer before gets one only in place of
each of its closers.
-/
import DocWeave.Proofs.Emission.CodeText

namespace DocWeave

/-- A text with one closer `*/`, at its end. -/
structure Text.ClosesOnce (t : Text) : Prop where
  ends : ['*', '/'] <:+ t
  once : ∀ before after, t = before ++ ['*', '/'] ++ after → after = []

/-- Puts every broken closer of a text together again. -/
def mendCloser : Text → Text
  | [] => []
  | '*' :: '\\' :: '/' :: rest => '*' :: '/' :: mendCloser rest
  | c :: rest => c :: mendCloser rest

theorem closer_suffix_of_afterCloser? {t u : Text} (h : afterCloser? t = some u) :
    ['*', '/'] ++ u <:+ t := by
  fun_induction afterCloser? t with
  | case1 => cases h
  | case2 rest =>
      obtain rfl := Option.some.inj h
      exact List.suffix_rfl
  | case3 c rest _ ih => exact (ih h).trans (List.suffix_cons c rest)

/-- What follows a closer also follows the first one. -/
theorem exists_afterCloser?_append (before after : Text) :
    ∃ more, afterCloser? (before ++ ['*', '/'] ++ after) = some (more ++ after) := by
  induction before with
  | nil => exact ⟨[], rfl⟩
  | cons c rest ih =>
      by_cases hfirst : c = '*' ∧ rest.head? = some '/'
      · obtain ⟨rfl, hslash⟩ := hfirst
        obtain ⟨later, rfl⟩ := List.head?_eq_some_iff.mp hslash
        exact ⟨later ++ ['*', '/'], rfl⟩
      · obtain ⟨more, hmore⟩ := ih
        refine ⟨more, ?_⟩
        rw [← hmore, List.cons_append, List.cons_append, afterCloser?]
        rintro later rfl hlater
        refine hfirst ⟨rfl, ?_⟩
        cases rest with
        | nil => simp at hlater
        | cons d rest => exact congrArg some (List.cons.inj hlater).1

theorem closesOnce_of_afterCloser? {t : Text} (h : afterCloser? t = some []) : t.ClosesOnce where
  ends := closer_suffix_of_afterCloser? h
  once := by
    rintro before after rfl
    obtain ⟨more, hmore⟩ := exists_afterCloser?_append before after
    rw [hmore] at h
    exact (List.append_eq_nil_iff.mp (Option.some.inj h)).2

theorem DocBlock.closesOnce_render (block : DocBlock) : block.render.ClosesOnce := by
  have hlines := afterCloser?_framedLines_append block.lines []
  rw [List.append_nil] at hlines
  apply closesOnce_of_afterCloser?
  rw [block.render_eq, afterCloser?_cons_of_ne (by decide), afterCloser?_star (by simp [StartsOff]),
    afterCloser?_star, hlines]
  cases block.lines <;> simp [StartsOff]

theorem DocBlock.closesOnce_renderInline (block : DocBlock) : block.renderInline.ClosesOnce := by
  let text := [' '].intercalate block.lines
  have hinline : block.renderInline =
      '/' :: '*' :: '*' :: ' ' :: (escapeCloser text ++ " */".toList) := rfl
  have htext : afterCloser? (escapeCloser text ++ " */".toList) = afterCloser? " */".toList :=
    afterCloser?_escapeCloser_append text (by simp [StartsOff])
  apply closesOnce_of_afterCloser?
  rw [hinline, afterCloser?_cons_of_ne (by decide), afterCloser?_star (by simp [StartsOff]),
    afterCloser?_star (by simp [StartsOff]), afterCloser?_cons_of_ne (by decide), htext]
  rfl

/-- A text without a closer is written as it is. -/
theorem escapeCloser_of_closerFree {t : Text} (h : ¬ ['*', '/'] <:+: t) : escapeCloser t = t := by
  fun_induction escapeCloser t with
  | case1 => rfl
  | case2 rest => exact absurd ⟨[], rest, rfl⟩ h
  | case3 c rest _ ih =>
      rw [ih fun hrest => h (hrest.trans (List.suffix_cons c rest).isInfix)]

/-- An escaped text starts like the end of a broken closer only if the text itself
does. -/
theorem broken_prefix_of_escapeCloser {t later : Text}
    (h : escapeCloser t = '\\' :: '/' :: later) : ['\\', '/'] <+: t := by
  have hhead : t.head? = some '\\' := by rw [← head?_escapeCloser, h]; rfl
  obtain ⟨rest, rfl⟩ := List.head?_eq_some_iff.mp hhead
  have hrest : escapeCloser rest = '/' :: later := (List.cons.inj h).2
  have hslash : rest.head? = some '/' := by rw [← head?_escapeCloser, hrest]; rfl
  obtain ⟨after, rfl⟩ := List.head?_eq_some_iff.mp hslash
  exact ⟨after, rfl⟩

theorem mendCloser_escapeCloser {t : Text} (h : ¬ ['*', '\\', '/'] <:+: t) :
    mendCloser (escapeCloser t) = t := by
  fun_induction escapeCloser t with
  | case1 => rfl
  | case2 rest ih =>
      have hrest : ¬ ['*', '\\', '/'] <:+: rest := fun hrest =>
        h (hrest.trans (List.suffix_append ['*', '/'] rest).isInfix)
      rw [mendCloser, ih hrest]
  | case3 c rest _ ih =>
      have hrest : ¬ ['*', '\\', '/'] <:+: rest := fun hrest =>
        h (hrest.trans (List.suffix_cons c rest).isInfix)
      rw [mendCloser, ih hrest]
      rintro later rfl hlater
      obtain ⟨after, rfl⟩ := broken_prefix_of_escapeCloser hlater
      exact h ⟨[], after, rfl⟩

/-- Printed blocks have one closer, at their end.  Escaping leaves no closer, does
nothing more when done again and nothing to a text without closers, and is undone
by mending for a text without broken closers. -/
theorem render_closesOnce_escapeCloser_mends :
    (∀ block : DocBlock, block.render.ClosesOnce ∧ block.renderInline.ClosesOnce) ∧
    ∀ t : Text, ¬ ['*', '/'] <:+: escapeCloser t ∧
      escapeCloser (escapeCloser t) = escapeCloser t ∧
      (¬ ['*', '/'] <:+: t → escapeCloser t = t) ∧
      (¬ ['*', '\\', '/'] <:+: t → mendCloser (escapeCloser t) = t) := by
  constructor
  · exact fun block => ⟨block.closesOnce_render, block.closesOnce_renderInline⟩
  · intro t
    have hfree := closer_not_infix_escapeCloser t
    exact ⟨hfree, escapeCloser_of_closerFree hfree, escapeCloser_of_closerFree,
      mendCloser_escapeCloser⟩

namespace ClosersWitness

/-- Lines with closers next to each other, with none, and with one that only a
line break keeps apart. -/
def block : DocBlock :=
  .ofEntries [(.text, "**/*/".toList), (.text, []), (.param, "/\n*".toList)]

end ClosersWitness

theorem render_closesOnce_escapeCloser_mends_stars :
    ClosersWitness.block.render.ClosesOnce ∧ ClosersWitness.block.renderInline.ClosesOnce ∧
      mendCloser (escapeCloser "**/*/".toList) = "**/*/".toList ∧
      escapeCloser "*\\/".toList = "*\\/".toList :=
  have ⟨hblocks, htexts⟩ := render_closesOnce_escapeCloser_mends
  ⟨(hblocks ClosersWitness.block).1, (hblocks ClosersWitness.block).2,
    (htexts "**/*/".toList).2.2.2 (by decide), (htexts "*\\/".toList).2.2.1 (by decide)⟩

end DocWeave
