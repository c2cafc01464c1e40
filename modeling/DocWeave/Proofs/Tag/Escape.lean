/-
Escaped lines.  A line keeps its ends and its emptiness when it is escaped,
gains nothing but backslashes, and holds no closer afterwards.
-/
import DocWeave.Proofs.Text.Trimming
import DocWeave.Tag.Block

namespace DocWeave

theorem escapeCloser_eq_nil_iff (t : Text) : escapeCloser t = [] ↔ t = [] := by
  fun_cases escapeCloser t <;> simp

theorem isEmpty_escapeCloser (t : Text) : (escapeCloser t).isEmpty = t.isEmpty := by
  rw [Bool.eq_iff_iff, List.isEmpty_iff, List.isEmpty_iff, escapeCloser_eq_nil_iff]

theorem head?_escapeCloser (t : Text) : (escapeCloser t).head? = t.head? := by
  fun_cases escapeCloser t <;> rfl

theorem getLast?_escapeCloser (t : Text) : (escapeCloser t).getLast? = t.getLast? := by
  fun_induction escapeCloser t with
  | case1 => rfl
  | case2 rest ih => simp [List.getLast?_cons, ih]
  | case3 c rest _ ih => simp [List.getLast?_cons, ih]

theorem mem_escapeCloser {t : Text} {c : Char} (h : c ∈ escapeCloser t) : c ∈ t ∨ c = '\\' := by
  fun_induction escapeCloser t with
  | case1 => cases h
  | case2 rest ih =>
      simp only [List.mem_cons] at h ⊢
      rcases h with rfl | rfl | rfl | hrest
      · simp
      · simp
      · simp
      · rcases ih hrest with hmem | rfl <;> simp_all
  | case3 d rest _ ih =>
      rcases List.mem_cons.mp h with rfl | hrest
      · exact Or.inl List.mem_cons_self
      · rcases ih hrest with hmem | rfl
        · exact Or.inl (List.mem_cons_of_mem d hmem)
        · exact Or.inr rfl

/-- An escaped text holds no closer. -/
theorem closer_not_infix_escapeCloser (t : Text) : ¬ ['*', '/'] <:+: escapeCloser t := by
  fun_induction escapeCloser t with
  | case1 => simp
  | case2 rest ih => simp [List.infix_cons_iff, ih]
  | case3 c rest hrest ih =>
      rw [List.infix_cons_iff, not_or]
      refine ⟨?_, ih⟩
      rintro ⟨later, hlater⟩
      obtain ⟨rfl, hslash⟩ := List.cons.inj hlater
      have hhead : rest.head? = some '/' := by
        rw [← head?_escapeCloser, ← hslash]
        rfl
      obtain ⟨after, rfl⟩ := List.head?_eq_some_iff.mp hhead
      exact hrest after rfl rfl

theorem trimmed_escapeCloser {t : Text} (h : t.Trimmed) : Text.Trimmed (escapeCloser t) where
  starts := by
    intro c hc
    rw [head?_escapeCloser] at hc
    exact h.starts c hc
  ends := by
    intro c hc
    rw [getLast?_escapeCloser] at hc
    exact h.ends c hc

end DocWeave
