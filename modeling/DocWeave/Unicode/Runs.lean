/-
Sets of code points written as runs.  A table lists the first and the last
code point of every run in increasing order; the predicates built on these
tables are the only way the rest of the library looks at them.
-/

namespace DocWeave

/-- Whether a code point lies in one of the runs `(first, last)`. -/
def inRuns (runs : List (Nat × Nat)) (code : Nat) : Bool :=
  runs.any fun run => run.1 ≤ code && code ≤ run.2

end DocWeave
