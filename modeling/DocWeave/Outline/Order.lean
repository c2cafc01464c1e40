/-
The order of a scope.  What is documented comes in the order it starts in the
source; of things that start together callables come first, then classes, then
namespaces, then comments that stand alone, and equals keep the order they
were given in.
-/
import DocWeave.Source.Position

namespace DocWeave

/-- Where something belongs within its scope. -/
structure Place where
  start : Position
  rank : Nat
  deriving DecidableEq, Repr

/-- Whether one place comes before another or coincides with it. -/
def Place.notAfter (a b : Place) : Bool :=
  decide (a.start < b.start) || (a.start == b.start && decide (a.rank ≤ b.rank))

theorem Place.notAfter_iff (a b : Place) :
    a.notAfter b = true ↔ a.start < b.start ∨ (a.start = b.start ∧ a.rank ≤ b.rank) := by
  simp [Place.notAfter]

theorem Place.notAfter_total {a b : Place} (h : ¬ a.notAfter b = true) :
    b.notAfter a = true := by
  rw [Place.notAfter_iff] at h ⊢
  obtain ⟨⟨line, column⟩, rank⟩ := a
  obtain ⟨⟨line', column'⟩, rank'⟩ := b
  simp only [Position.lt_iff, Position.mk.injEq] at h ⊢
  omega

theorem Place.notAfter_trans {a b c : Place} (hab : a.notAfter b = true)
    (hbc : b.notAfter c = true) : a.notAfter c = true := by
  rw [Place.notAfter_iff] at hab hbc ⊢
  obtain ⟨⟨line, column⟩, rank⟩ := a
  obtain ⟨⟨line', column'⟩, rank'⟩ := b
  obtain ⟨⟨line'', column''⟩, rank''⟩ := c
  simp only [Position.lt_iff, Position.mk.injEq] at hab hbc ⊢
  omega

structure Placed (α : Type) where
  place : Place
  item : α
  deriving Repr

/-- Inserts an item in front of the first one that does not come before it. -/
def insertPlaced {α : Type} (x : Placed α) : List (Placed α) → List (Placed α)
  | [] => [x]
  | y :: rest =>
      if x.place.notAfter y.place then x :: y :: rest else y :: insertPlaced x rest

/-- Sorts items by their places; equals keep their order. -/
def sortPlaced {α : Type} (xs : List (Placed α)) : List (Placed α) :=
  xs.foldr insertPlaced []

theorem insertPlaced_perm {α : Type} (x : Placed α) (xs : List (Placed α)) :
    (insertPlaced x xs).Perm (x :: xs) := by
  induction xs with
  | nil => exact List.Perm.refl _
  | cons y rest ih =>
      unfold insertPlaced
      split
      · exact List.Perm.refl _
      · exact (ih.cons y).trans (List.Perm.swap x y rest)

/-- Sorting loses nothing and adds nothing. -/
theorem sortPlaced_perm {α : Type} (xs : List (Placed α)) : (sortPlaced xs).Perm xs := by
  induction xs with
  | nil => exact List.Perm.refl _
  | cons x rest ih => exact (insertPlaced_perm x (sortPlaced rest)).trans (ih.cons x)

theorem insertPlaced_sorted {α : Type} (x : Placed α) (xs : List (Placed α))
    (h : xs.Pairwise fun a b => a.place.notAfter b.place = true) :
    (insertPlaced x xs).Pairwise fun a b => a.place.notAfter b.place = true := by
  induction xs with
  | nil => exact List.pairwise_singleton _ x
  | cons y rest ih =>
      have hy := List.pairwise_cons.mp h
      unfold insertPlaced
      split
      · rename_i hxy
        refine List.pairwise_cons.mpr ⟨?_, h⟩
        intro z hz
        rcases List.mem_cons.mp hz with rfl | hrest
        · exact hxy
        · exact Place.notAfter_trans hxy (hy.1 z hrest)
      · rename_i hxy
        refine List.pairwise_cons.mpr ⟨?_, ih hy.2⟩
        intro z hz
        rcases List.mem_cons.mp ((insertPlaced_perm x rest).mem_iff.mp hz) with rfl | hrest
        · exact Place.notAfter_total hxy
        · exact hy.1 z hrest

/-- Sorted items come in the order of their places. -/
theorem sortPlaced_sorted {α : Type} (xs : List (Placed α)) :
    (sortPlaced xs).Pairwise fun a b => a.place.notAfter b.place = true := by
  induction xs with
  | nil => exact List.Pairwise.nil
  | cons x rest ih => exact insertPlaced_sorted x (sortPlaced rest) ih

end DocWeave
