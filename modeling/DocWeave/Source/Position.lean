/-
Positions in a source file.  Lines count from one and columns from zero, but
nothing is assumed about them: a position is any pair of integers, and
positions are compared line first.
-/

namespace DocWeave

structure Position where
  line : Int
  column : Int := 0
  deriving DecidableEq, Repr

instance : LT Position :=
  ⟨fun a b => a.line < b.line ∨ (a.line = b.line ∧ a.column < b.column)⟩

instance : LE Position :=
  ⟨fun a b => a.line < b.line ∨ (a.line = b.line ∧ a.column ≤ b.column)⟩

instance (a b : Position) : Decidable (a < b) :=
  inferInstanceAs (Decidable (a.line < b.line ∨ (a.line = b.line ∧ a.column < b.column)))

instance (a b : Position) : Decidable (a ≤ b) :=
  inferInstanceAs (Decidable (a.line < b.line ∨ (a.line = b.line ∧ a.column ≤ b.column)))

theorem Position.lt_iff (a b : Position) :
    a < b ↔ a.line < b.line ∨ (a.line = b.line ∧ a.column < b.column) := Iff.rfl

theorem Position.le_iff (a b : Position) :
    a ≤ b ↔ a.line < b.line ∨ (a.line = b.line ∧ a.column ≤ b.column) := Iff.rfl

theorem Position.le_iff_lt_or_eq (a b : Position) : a ≤ b ↔ a < b ∨ a = b := by
  cases a
  cases b
  simp only [Position.le_iff, Position.lt_iff, Position.mk.injEq]
  omega

end DocWeave
