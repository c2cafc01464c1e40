/-
The outline of a file does not depend on the order its statements are listed
in.  Where no two declarations of a scope start at the same position, the
statements of the scope can be listed in any order that keeps its comments in
theirs, and statements that are not documented can be put in or left out.
-/
import DocWeave.Proofs.Outline.Trees
import Mathlib.Data.List.Nodup
import Mathlib.Logic.Relation

namespace DocWeave

theorem Stmt.place?_eq_map_entry? (options : Options) (comments : List Comment) (stmt : Stmt) :
    (stmt.entry? options comments).map Placed.place = stmt.place? := by
  cases stmt with
  | namespaceDecl head body => rw [Stmt.entry?_namespaceDecl]; rfl
  | _ => rfl

end DocWeave
