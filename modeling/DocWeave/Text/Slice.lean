/-
Cuts of a text between two indices that may be negative or too large.  A
negative index counts from the end, and every index is clamped to the text.
-/
import DocWeave.Text.Basic

namespace DocWeave

/-- The place an index denotes in a text of `size` characters. -/
def clampIndex (size : Nat) (index : Int) : Nat :=
  if index < 0 then (index + size).toNat else min index.toNat size

def Text.sliceFrom (first : Int) (t : Text) : Text :=
  t.drop (clampIndex t.length first)

def Text.sliceTo (last : Int) (t : Text) : Text :=
  t.take (clampIndex t.length last)

/-- The text between two indices, the second one exclusive. -/
def Text.slice (first last : Int) (t : Text) : Text :=
  (t.sliceTo last).drop (clampIndex t.length first)

/-- Inside the text an index denotes itself. -/
theorem clampIndex_natCast {size index : Nat} (h : index ≤ size) :
    clampIndex size index = index := by
  unfold clampIndex
  split <;> omega

end DocWeave
