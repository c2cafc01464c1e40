/-
Texts cut at a character.  The pieces do not hold the character, and there is one
piece more than the text has of it.  Lines joined and cut again are cut each on
its own, so that only a line feed inside of one of them makes a difference.
-/
import DocWeave.Text.Basic

namespace DocWeave

/-- The pieces of a text do not hold what it was cut at. -/
theorem notMem_of_mem_splitOn {separator : Char} {t piece : Text}
    (h : piece ∈ t.splitOn separator) : separator ∉ piece := by
  induction t generalizing piece with
  | nil =>
      obtain rfl := List.mem_singleton.mp h
      exact List.not_mem_nil
  | cons c rest ih =>
      rw [List.splitOn_cons_eq_if_modifyHead] at h
      split at h
      · rcases List.mem_cons.mp h with rfl | hrest
        · exact List.not_mem_nil
        · exact ih hrest
      · rename_i hc
        obtain ⟨first, later, hpieces⟩ :=
          List.exists_cons_of_ne_nil (List.splitOn_ne_nil separator rest)
        rw [hpieces] at h ih
        rcases List.mem_cons.mp h with rfl | hlater
        · have hne : separator ≠ c := fun heq => hc (beq_iff_eq.mpr heq.symm)
          rw [List.mem_cons, not_or]
          exact ⟨hne, ih List.mem_cons_self⟩
        · exact ih (List.mem_cons_of_mem first hlater)

theorem Text.newline_notMem_of_mem_lines {t line : Text} (h : line ∈ t.lines) : '\n' ∉ line :=
  notMem_of_mem_splitOn h

/-- A text has one line more than it has line feeds. -/
theorem Text.length_lines (t : Text) : t.lines.length = t.count '\n' + 1 := by
  induction t with
  | nil => rfl
  | cons c rest ih =>
      rw [Text.lines] at ih ⊢
      rw [List.splitOn_cons_eq_if_modifyHead, List.count_cons]
      split
      · rw [List.length_cons, ih]
      · rw [List.length_modifyHead, ih, Nat.add_zero]

/-- What stands in front of a text without a line feed goes to its first line. -/
theorem Text.lines_append {front : Text} (h : '\n' ∉ front) (t : Text) :
    (front ++ t).lines = t.lines.modifyHead (front ++ ·) := by
  induction front with
  | nil => exact (congrFun List.modifyHead_id t.lines).symm
  | cons c rest ih =>
      rw [List.mem_cons, not_or] at h
      have hc : ¬ (c == '\n') = true := fun heq => h.1 (beq_iff_eq.mp heq).symm
      have hrest := ih h.2
      rw [Text.lines] at hrest
      rw [List.cons_append, Text.lines, List.splitOn_cons_eq_if_modifyHead, if_neg hc, hrest,
        List.modifyHead_modifyHead]
      rfl

/-- Joined lines have the lines that each of them has. -/
theorem Text.lines_unlines {ls : List Text} (hne : ls ≠ []) :
    (Text.unlines ls).lines = ls.flatMap Text.lines := by
  induction ls with
  | nil => exact absurd rfl hne
  | cons line rest ih =>
      cases rest with
      | nil => rw [Text.unlines, List.intercalate_singleton, List.flatMap_singleton]
      | cons next more =>
          have hjoined : Text.unlines (line :: next :: more) =
              line ++ '\n' :: Text.unlines (next :: more) := by
            rw [Text.unlines, List.intercalate_cons_cons, List.append_assoc]
            rfl
          rw [hjoined, Text.lines, List.splitOn_append_cons_self, List.flatMap_cons,
            ← ih (List.cons_ne_nil next more)]
          rfl

end DocWeave
