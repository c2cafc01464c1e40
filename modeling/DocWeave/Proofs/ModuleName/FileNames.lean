/-
Module names of files.  A path names the last of its components that is neither
empty nor a single dot, so that what follows a slash counts only if it names
something itself.  The name loses its extension if it has one, and the dots that
are left become underscores.
-/
import DocWeave.ModuleName
import DocWeave.Proofs.Shape.Dotted
import DocWeave.Proofs.Text.Cutting
import Mathlib.Data.List.Basic

namespace DocWeave

/-- A file name is one of the components of its path. -/
theorem slash_notMem_fileName (path : Text) : '/' ∉ fileName path := by
  rw [fileName]
  cases hlast : ((path.splitOn '/').filter fun part => !part.isEmpty && part != ['.']).getLast? with
  | none => exact List.not_mem_nil
  | some name =>
      have hname := (List.mem_filter.mp (List.mem_of_getLast? hlast)).1
      exact notMem_of_mem_splitOn hname

/-- A name without a slash is the name of the file it stands for. -/
theorem fileName_of_slash_notMem {name : Text} (hslash : '/' ∉ name) (hne : name ≠ [])
    (hdot : name ≠ ['.']) : fileName name = name := by
  rw [fileName, List.splitOn_eq_singleton hslash]
  simp [hne, hdot]

/-- What follows a slash gives the name, unless it names nothing. -/
theorem fileName_append_slash (path rest : Text) :
    fileName (path ++ '/' :: rest) =
      if fileName rest = [] then fileName path else fileName rest := by
  rw [fileName, List.splitOn_append_cons_self, List.filter_append, List.getLast?_append]
  cases hlast : ((rest.splitOn '/').filter fun part => !part.isEmpty && part != ['.']).getLast? with
  | none =>
      have hrest : fileName rest = [] := by rw [fileName, hlast]; rfl
      rw [if_pos hrest, Option.none_or, fileName]
  | some name =>
      have hrest : fileName rest = name := by rw [fileName, hlast]; rfl
      have hname := (List.mem_filter.mp (List.mem_of_getLast? hlast)).2
      have hne : name ≠ [] := by
        rintro rfl
        cases hname
      rw [hrest, if_neg hne, Option.some_or, Option.getD_some]

/-- The last dot of a name sets its extension apart, unless it stands at one of the
ends. -/
theorem stem_append_dot {base extension : Text} (hdot : '.' ∉ extension) :
    stem (base ++ '.' :: extension) =
      if base = [] ∨ extension = [] then base ++ '.' :: extension else base := by
  have hends : (base ++ '.' :: extension).getLast? = some '.' ↔ extension = [] := by
    cases extension with
    | nil => simp
    | cons c rest =>
        rw [List.getLast?_append_of_ne_nil base (List.cons_ne_nil _ _), List.getLast?_cons_cons]
        refine iff_of_false ?_ (List.cons_ne_nil c rest)
        intro hlast
        exact hdot (List.mem_of_getLast? hlast)
  simp only [stem, beforeLast_dot hdot, List.isEmpty_iff, beq_iff_eq, Bool.or_eq_true, hends]

theorem stem_of_dot_notMem {name : Text} (h : '.' ∉ name) : stem name = name := by
  simp only [stem, beforeLast_of_dot_notMem h, List.isEmpty_nil, Bool.true_or, if_true]

theorem stem_isPrefix (name : Text) : stem name <+: name := by
  by_cases h : '.' ∈ name
  · obtain ⟨base, extension, hdot, rfl⟩ := exists_leaf_of_dot_mem h
    rw [stem_append_dot hdot]
    split
    · exact List.prefix_refl _
    · exact List.prefix_append _ _
  · exact (stem_of_dot_notMem h).symm ▸ List.prefix_refl name

theorem fileName_with_extension {base extension : Text} (hne : base ≠ []) (hbase : '/' ∉ base)
    (hextension : '/' ∉ extension) :
    fileName (base ++ '.' :: extension) = base ++ '.' :: extension := by
  apply fileName_of_slash_notMem
  · simp [hbase, hextension]
  · simp
  · obtain ⟨c, rest, rfl⟩ := List.exists_cons_of_ne_nil hne
    simp

/-- A file with an extension is named as its base, wherever it lies. -/
theorem moduleNameOfFile_of_fileName {path base extension : Text} (hne : base ≠ [])
    (hextension : extension ≠ []) (hdot : '.' ∉ extension)
    (h : fileName path = base ++ '.' :: extension) :
    moduleNameOfFile path = base.map fun c => if c = '.' then '_' else c := by
  rw [moduleNameOfFile, h, stem_append_dot hdot, if_neg (by simp [hne, hextension])]
  simp only [beq_iff_eq]

theorem dot_notMem_moduleNameOfFile (path : Text) : '.' ∉ moduleNameOfFile path := by
  intro hmem
  obtain ⟨c, -, hc⟩ := List.mem_map.mp hmem
  split at hc
  · cases hc
  · rename_i hdot
    exact hdot (beq_iff_eq.mpr hc)

theorem slash_notMem_moduleNameOfFile (path : Text) : '/' ∉ moduleNameOfFile path := by
  intro hmem
  obtain ⟨c, hname, hc⟩ := List.mem_map.mp hmem
  split at hc
  · cases hc
  · subst hc
    exact slash_notMem_fileName path ((stem_isPrefix _).subset hname)

/-- A slash at the end of a path names nothing, nor does a single dot behind it. -/
theorem fileName_append_nothing (path : Text) {rest : List Text}
    (h : ∀ part ∈ rest, part = "/".toList ∨ part = "/.".toList) :
    fileName (path ++ rest.flatten) = fileName path := by
  induction rest generalizing path with
  | nil => rw [List.flatten_nil, List.append_nil]
  | cons part rest ih =>
      have hpart : fileName (path ++ part) = fileName path := by
        rcases h part List.mem_cons_self with rfl | rfl
        · exact (fileName_append_slash path []).trans (if_pos rfl)
        · exact (fileName_append_slash path ['.']).trans (if_pos rfl)
      rw [List.flatten_cons, ← List.append_assoc,
        ih (path ++ part) fun other hother => h other (List.mem_cons_of_mem part hother), hpart]

/-- The module name of a file holds neither dots nor slashes.  A file with a base and
an extension has the base as its module name, with underscores for dots, in every
directory and in none.  Slashes at the end of a path, and single dots behind them,
change nothing. -/
theorem moduleNameOfFile_names_base :
    (∀ path, '.' ∉ moduleNameOfFile path ∧ '/' ∉ moduleNameOfFile path) ∧
    (∀ base extension : Text, base ≠ [] → '/' ∉ base → extension ≠ [] → '/' ∉ extension →
      '.' ∉ extension →
      moduleNameOfFile (base ++ ".".toList ++ extension) =
          base.map (fun c => if c = '.' then '_' else c) ∧
        ∀ directory : Text,
          moduleNameOfFile (directory ++ "/".toList ++ base ++ ".".toList ++ extension) =
            base.map fun c => if c = '.' then '_' else c) ∧
    ∀ (path : Text) (rest : List Text),
      (∀ part ∈ rest, part = "/".toList ∨ part = "/.".toList) →
      moduleNameOfFile (path ++ rest.flatten) = moduleNameOfFile path := by
  refine ⟨fun path => ⟨dot_notMem_moduleNameOfFile path, slash_notMem_moduleNameOfFile path⟩,
    ?_, ?_⟩
  · intro base extension hne hslash hextension hslash' hdot
    have hname := fileName_with_extension hne hslash hslash'
    have hhere : base ++ ".".toList ++ extension = base ++ '.' :: extension := by simp
    refine ⟨?_, ?_⟩
    · rw [hhere]
      exact moduleNameOfFile_of_fileName hne hextension hdot hname
    · intro directory
      have hthere : directory ++ "/".toList ++ base ++ ".".toList ++ extension =
          directory ++ '/' :: (base ++ '.' :: extension) := by simp
      rw [hthere]
      apply moduleNameOfFile_of_fileName hne hextension hdot
      rw [fileName_append_slash, hname, if_neg (by simp)]
  · intro path rest h
    rw [moduleNameOfFile, moduleNameOfFile, fileName_append_nothing path h]

/-- A base that starts with a dot and holds another, in a directory whose name has
an extension of its own. -/
theorem moduleNameOfFile_names_base_hidden :
    moduleNameOfFile (".net.client".toList ++ ".".toList ++ "bs".toList) =
        "_net_client".toList ∧
      moduleNameOfFile ("lib.d/.".toList ++ "/".toList ++ ".net.client".toList ++ ".".toList ++
        "bs".toList) = "_net_client".toList ∧
      moduleNameOfFile ("lib/net.bs".toList ++
        ["/.".toList, "/".toList, "/".toList, "/.".toList].flatten) = "net".toList := by
  obtain ⟨-, hbase, hrest⟩ := moduleNameOfFile_names_base
  obtain ⟨hhere, hthere⟩ := hbase ".net.client".toList "bs".toList (by decide) (by decide)
    (by decide) (by decide) (by decide)
  refine ⟨hhere, hthere "lib.d/.".toList, ?_⟩
  exact hrest "lib/net.bs".toList _ (by decide)

end DocWeave
