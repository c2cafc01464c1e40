/-
Dotted names.  A name of several segments stands below each of its dotted
prefixes, and its parent is the longest of these short of the name itself.
-/
import DocWeave.Emission

namespace DocWeave

/-- Whether a name is another one or one of the names that one stands below. -/
def IsDottedPrefix (start name : Text) : Prop :=
  start = name ∨ ∃ rest, name = start ++ '.' :: rest

theorem IsDottedPrefix.refl (name : Text) : IsDottedPrefix name name :=
  Or.inl rfl

theorem IsDottedPrefix.trans {a b c : Text} (hab : IsDottedPrefix a b)
    (hbc : IsDottedPrefix b c) : IsDottedPrefix a c := by
  rcases hab with rfl | ⟨rest, rfl⟩
  · exact hbc
  · rcases hbc with rfl | ⟨later, rfl⟩
    · exact Or.inr ⟨rest, rfl⟩
    · exact Or.inr ⟨rest ++ '.' :: later, by simp⟩

theorem IsDottedPrefix.isPrefix {start name : Text} (h : IsDottedPrefix start name) :
    start <+: name := by
  rcases h with rfl | ⟨rest, rfl⟩
  · exact List.prefix_refl start
  · exact List.prefix_append start _

theorem isDottedPrefix_nil_iff (name : Text) :
    IsDottedPrefix [] name ↔ name = [] ∨ ∃ rest, name = '.' :: rest := by
  simp [IsDottedPrefix, eq_comm]

theorem isDottedPrefix_cons_iff (c d : Char) (start name : Text) :
    IsDottedPrefix (c :: start) (d :: name) ↔ c = d ∧ IsDottedPrefix start name := by
  simp only [IsDottedPrefix, List.cons_append, List.cons.injEq]
  constructor
  · rintro (⟨rfl, rfl⟩ | ⟨rest, rfl, rfl⟩)
    · exact ⟨rfl, Or.inl rfl⟩
    · exact ⟨rfl, Or.inr ⟨rest, rfl⟩⟩
  · rintro ⟨rfl, rfl | ⟨rest, rfl⟩⟩
    · exact Or.inl ⟨rfl, rfl⟩
    · exact Or.inr ⟨rest, rfl, rfl⟩

/-- What stands above a longer name stands above the name that was made longer,
or it begins with that name and the dot behind it. -/
theorem IsDottedPrefix.of_append_dot {start outer name : Text}
    (h : IsDottedPrefix start (outer ++ '.' :: name)) :
    IsDottedPrefix start outer ∨ ∃ rest, start = outer ++ '.' :: rest := by
  induction outer generalizing start with
  | nil =>
      cases start with
      | nil => exact Or.inl (IsDottedPrefix.refl [])
      | cons c start =>
          obtain ⟨rfl, -⟩ := (isDottedPrefix_cons_iff c '.' start name).mp h
          exact Or.inr ⟨start, rfl⟩
  | cons d outer ih =>
      cases start with
      | nil =>
          rcases (isDottedPrefix_nil_iff _).mp h with hnil | ⟨rest, hcons⟩
          · cases hnil
          · obtain ⟨rfl, -⟩ := List.cons.inj hcons
            exact Or.inl ((isDottedPrefix_nil_iff _).mpr (Or.inr ⟨outer, rfl⟩))
      | cons c start =>
          obtain ⟨rfl, hstart⟩ := (isDottedPrefix_cons_iff c d start _).mp h
          rcases ih hstart with habove | ⟨rest, rfl⟩
          · exact Or.inl ((isDottedPrefix_cons_iff c c start outer).mpr ⟨rfl, habove⟩)
          · exact Or.inr ⟨rest, rfl⟩

theorem mem_dottedStarts {start name : Text} :
    start ∈ dottedStarts name ↔ IsDottedPrefix start name := by
  induction name generalizing start with
  | nil => simp [dottedStarts, IsDottedPrefix]
  | cons d name ih =>
      unfold dottedStarts
      cases start with
      | nil =>
          rw [isDottedPrefix_nil_iff]
          by_cases hd : d = '.'
          · simp [hd]
          · simp [hd]
      | cons c start =>
          have hmap : c :: start ∈ (dottedStarts name).map (d :: ·) ↔
              c = d ∧ IsDottedPrefix start name := by
            rw [List.mem_map]
            constructor
            · rintro ⟨inner, hinner, heq⟩
              obtain ⟨rfl, rfl⟩ := List.cons.inj heq
              exact ⟨rfl, ih.mp hinner⟩
            · rintro ⟨rfl, hstart⟩
              exact ⟨start, ih.mpr hstart, rfl⟩
          rw [isDottedPrefix_cons_iff, ← hmap]
          by_cases hd : d = '.'
          · simp [hd]
          · simp [hd]

instance (start name : Text) : Decidable (IsDottedPrefix start name) :=
  decidable_of_iff (start ∈ dottedStarts name) mem_dottedStarts

/-- Dotted prefixes are listed from the shortest to the longest. -/
theorem dottedStarts_pairwise (name : Text) :
    (dottedStarts name).Pairwise fun a b => a.length < b.length := by
  induction name with
  | nil => exact List.pairwise_singleton _ _
  | cons d name ih =>
      have hmap : ((dottedStarts name).map (d :: ·)).Pairwise
          fun a b => a.length < b.length := by
        rw [List.pairwise_map]
        exact ih.imp fun hlt => Nat.succ_lt_succ hlt
      unfold dottedStarts
      split
      · refine List.pairwise_cons.mpr ⟨?_, hmap⟩
        intro start hstart
        obtain ⟨inner, -, rfl⟩ := List.mem_map.mp hstart
        exact Nat.succ_pos _
      · exact hmap

/-- A scope that counts has a name. -/
theorem eq_of_bind_given? {scope : Option Text} {outer : Text}
    (h : scope.bind Text.given? = some outer) : scope = some outer ∧ outer ≠ [] := by
  obtain ⟨name, hscope, hgiven⟩ := Option.bind_eq_some_iff.mp h
  obtain ⟨rfl, hne⟩ := (Text.given?_eq_some_iff name outer).mp hgiven
  exact ⟨hscope, hne⟩

/-- Whether a list of names has, with each name, all names it stands below. -/
def PrefixClosed (names : List Text) : Prop :=
  ∀ name ∈ names, ∀ start, IsDottedPrefix start name → start ≠ [] → start ∈ names

theorem prefixClosed_iff (names : List Text) :
    PrefixClosed names ↔
      ∀ name ∈ names, ∀ start ∈ dottedStarts name, start ≠ [] → start ∈ names := by
  simp only [PrefixClosed, mem_dottedStarts]

instance (names : List Text) : Decidable (PrefixClosed names) :=
  decidable_of_iff _ (prefixClosed_iff names).symm

/-- A name made of segments with a dot between each two, none of them empty. -/
def IsDottedName (name : Text) : Prop :=
  ∀ segment ∈ name.splitOn '.', segment ≠ []

instance (name : Text) : Decidable (IsDottedName name) :=
  inferInstanceAs (Decidable (∀ segment ∈ name.splitOn '.', segment ≠ []))

theorem IsDottedName.ne_dot_cons {name : Text} (h : IsDottedName name) (rest : Text) :
    name ≠ '.' :: rest := by
  rintro rfl
  have hmem : [] ∈ ('.' :: rest).splitOn '.' := by
    simp [List.splitOn, List.splitOnP_cons_eq_if_modifyHead]
  exact h [] hmem rfl

/-- A name with a dot is its parent, the last dot and a leaf. -/
theorem exists_leaf_of_dot_mem {name : Text} (h : '.' ∈ name) :
    ∃ parent leaf, '.' ∉ leaf ∧ name = parent ++ '.' :: leaf := by
  obtain ⟨leaf, parent, hname, hleaf⟩ :=
    List.eq_append_cons_of_mem (List.mem_reverse.mpr h)
  refine ⟨parent.reverse, leaf.reverse, by simpa using hleaf, ?_⟩
  rw [← List.reverse_reverse name, hname]
  simp

theorem dropWhile_reverse_leaf {leaf : Text} (hleaf : '.' ∉ leaf) (before : Text) :
    (leaf.reverse ++ before).dropWhile (· != '.') = before.dropWhile (· != '.') := by
  apply List.dropWhile_append_of_pos
  intro c hc
  simp only [bne_iff_ne, ne_eq]
  rintro rfl
  exact hleaf (List.mem_reverse.mp hc)

theorem beforeLast_dot {parent leaf : Text} (hleaf : '.' ∉ leaf) :
    (parent ++ '.' :: leaf).beforeLast '.' = parent := by
  rw [Text.beforeLast, List.reverse_append, List.reverse_cons, List.append_assoc,
    dropWhile_reverse_leaf hleaf]
  simp

theorem beforeLast_of_dot_notMem {name : Text} (h : '.' ∉ name) : name.beforeLast '.' = [] := by
  rw [Text.beforeLast, ← List.append_nil name.reverse, dropWhile_reverse_leaf h]
  rfl

theorem parentOf?_of_dot_notMem {name : Text} (h : '.' ∉ name) : parentOf? name = none := by
  rw [parentOf?, beforeLast_of_dot_notMem h, Text.given?_nil]

theorem parentOf?_of_leaf {parent leaf : Text} (hleaf : '.' ∉ leaf) (hne : parent ≠ []) :
    parentOf? (parent ++ '.' :: leaf) = some parent := by
  rw [parentOf?, beforeLast_dot hleaf, Text.given?_eq_some_iff]
  exact ⟨rfl, hne⟩

/-- A container is a variable unless its name has a parent. -/
theorem Segment.text_container (qualified : Text) :
    (Segment.container qualified).text =
      (if (parentOf? qualified).isSome then [] else "var ".toList) ++ qualified ++
        " = \x7b\x7d;".toList := by
  delta Segment.text
  dsimp only
  cases parentOf? qualified <;> rfl

end DocWeave
