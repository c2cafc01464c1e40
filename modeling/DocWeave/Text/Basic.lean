/-
Texts as lists of characters, with the handful of operations the library is
written in: trimming blanks, cutting into lines, joining, searching.  A column
or an index always counts characters.
-/

namespace DocWeave

/-- A text is the list of its characters. -/
abbrev Text := List Char

/-- The blank characters: tab to carriage return, the four information
separators, the spaces of every width, and the line and paragraph separators. -/
def isBlank (c : Char) : Bool :=
  let code := c.toNat
  (0x09 ≤ code && code ≤ 0x0D) || (0x1C ≤ code && code ≤ 0x20) || code == 0x85 ||
    code == 0xA0 || code == 0x1680 || (0x2000 ≤ code && code ≤ 0x200A) ||
    code == 0x2028 || code == 0x2029 || code == 0x202F || code == 0x205F ||
    code == 0x3000

/-- Drops the longest run of characters satisfying `p` at the end. -/
def Text.dropEndWhile (p : Char → Bool) (t : Text) : Text :=
  (t.reverse.dropWhile p).reverse

def Text.trimStart (t : Text) : Text :=
  t.dropWhile isBlank

def Text.trimEnd (t : Text) : Text :=
  t.dropEndWhile isBlank

/-- Drops the blanks at both ends. -/
def Text.strip (t : Text) : Text :=
  t.trimStart.trimEnd

/-- An empty text counts as no text at all. -/
def Text.given? (t : Text) : Option Text :=
  if t.isEmpty then none else some t

/-- The lines of a text.  Only the line feed separates lines. -/
def Text.lines (t : Text) : List Text :=
  t.splitOn '\n'

/-- Lines put back together, with a line feed between each two. -/
def Text.unlines (ls : List Text) : Text :=
  ['\n'].intercalate ls

/-- The text before the last occurrence of a character; empty when there is none. -/
def Text.beforeLast (c : Char) (t : Text) : Text :=
  ((t.reverse.dropWhile (· != c)).drop 1).reverse

/-- The offset of the first occurrence of a pattern. -/
def Text.offset? (pattern : Text) : Text → Option Nat
  | [] => if pattern.isEmpty then some 0 else none
  | c :: rest =>
      if pattern.isPrefixOf (c :: rest) then some 0
      else (offset? pattern rest).map (· + 1)

/-- A decimal number as text. -/
def Text.ofInt (n : Int) : Text :=
  (toString n).toList

@[simp] theorem Text.given?_nil : Text.given? [] = none := rfl

@[simp] theorem Text.given?_cons (c : Char) (t : Text) :
    Text.given? (c :: t) = some (c :: t) := rfl

theorem Text.given?_eq_some_iff (t u : Text) :
    t.given? = some u ↔ t = u ∧ u ≠ [] := by
  cases t with
  | nil => simp [eq_comm]
  | cons c rest =>
      rw [Text.given?_cons, Option.some.injEq]
      constructor
      · intro h
        exact ⟨h, h ▸ List.cons_ne_nil c rest⟩
      · exact And.left

end DocWeave
