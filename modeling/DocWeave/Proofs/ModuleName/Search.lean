/-
The search for a module tag.  A tag names a module where spaces or tabs and a
name follow it.  The search finds the name at the first such place of a text and
passes over all tags before it that name nothing; it finds none only if there is
no such place.
-/
import DocWeave.ModuleName
import DocWeave.Proofs.Tag.Anatomy
import Mathlib.Order.Bounds.Basic

namespace DocWeave

/-- A text that starts with a gap and a name.  The gap is the whole run of spaces
and tabs at the start, the name is the whole run of characters up to the next
blank or star, and neither is empty. -/
structure NamesBehindGap (t name : Text) : Prop where
  spelled : ∃ gap rest, t = gap ++ (name ++ rest) ∧ gap ≠ [] ∧
    IsRun isSpaceOrTab gap (name ++ rest) ∧ IsRun isModuleNameChar name rest
  name_ne_nil : name ≠ []

/-- A place of a text where a module tag stands and names a module. -/
def NamesModuleAt (source : Text) (place : Nat) (name : Text) : Prop :=
  ∃ behind, source.drop place = moduleTag ++ behind ∧ NamesBehindGap behind name

theorem isModuleNameChar_iff (c : Char) :
    isModuleNameChar c = true ↔ isBlank c = false ∧ c ≠ '*' := by
  simp [isModuleNameChar]

theorem isSpaceOrTab_of_isModuleNameChar {c : Char} (h : isModuleNameChar c = true) :
    isSpaceOrTab c = false := by
  have hblank := ((isModuleNameChar_iff c).mp h).1
  rw [Bool.eq_false_iff]
  intro hspace
  rcases (show c = ' ' ∨ c = '\t' by simpa [isSpaceOrTab] using hspace) with rfl | rfl
  · cases hblank
  · cases hblank

theorem NamesBehindGap.chars {t name : Text} (h : NamesBehindGap t name) :
    ∀ c ∈ name, isBlank c = false ∧ c ≠ '*' := by
  obtain ⟨gap, rest, -, -, -, hname⟩ := h.spelled
  intro c hc
  exact (isModuleNameChar_iff c).mp (hname.all c hc)

theorem nameAfterTag?_eq_some_iff (t name : Text) :
    nameAfterTag? t = some name ↔ NamesBehindGap t name := by
  constructor
  · intro h
    cases t with
    | nil => cases h
    | cons c more =>
        rw [nameAfterTag?] at h
        split at h
        · rename_i hc
          obtain ⟨rfl, hne⟩ := (Text.given?_eq_some_iff _ _).mp h
          let behind := more.dropWhile isSpaceOrTab
          have hbehind : behind.takeWhile isModuleNameChar ++ behind.dropWhile isModuleNameChar =
              behind := List.takeWhile_append_dropWhile
          have hmore : more.takeWhile isSpaceOrTab ++ behind = more :=
            List.takeWhile_append_dropWhile
          have hgap := isRun_takeWhile isSpaceOrTab more
          refine ⟨⟨c :: more.takeWhile isSpaceOrTab, behind.dropWhile isModuleNameChar, ?_,
            List.cons_ne_nil _ _, ⟨?_, ?_⟩, isRun_takeWhile isModuleNameChar behind⟩, hne⟩
          · rw [hbehind, List.cons_append, hmore]
          · intro d hd
            rcases List.mem_cons.mp hd with rfl | hmem
            · exact hc
            · exact hgap.all d hmem
          · rw [hbehind]
            exact hgap.ends
        · cases h
  · rintro ⟨⟨gap, rest, rfl, hgap, hgapRun, hname⟩, hne⟩
    obtain ⟨c, more, rfl⟩ := List.exists_cons_of_ne_nil hgap
    have hc : isSpaceOrTab c = true := hgapRun.all c List.mem_cons_self
    have hmore : IsRun isSpaceOrTab more (name ++ rest) :=
      ⟨fun d hd => hgapRun.all d (List.mem_cons_of_mem c hd), hgapRun.ends⟩
    rw [List.cons_append, nameAfterTag?, if_pos hc, hmore.dropWhile_eq, hname.takeWhile_eq]
    exact (Text.given?_eq_some_iff name name).mpr ⟨rfl, hne⟩

/-- The tag at the start of a text names a module or names none. -/
theorem moduleTagAtStart?_eq_some_iff (t name : Text) :
    moduleTagAtStart? t = some name ↔ NamesModuleAt t 0 name := by
  rw [moduleTagAtStart?]
  constructor
  · intro h
    split at h
    · rename_i hprefix
      obtain ⟨behind, rfl⟩ := List.isPrefixOf_iff_prefix.mp hprefix
      rw [List.drop_left] at h
      exact ⟨behind, rfl, (nameAfterTag?_eq_some_iff behind name).mp h⟩
    · cases h
  · rintro ⟨behind, hbehind, hnames⟩
    obtain rfl : t = moduleTag ++ behind := hbehind
    rw [if_pos (List.isPrefixOf_iff_prefix.mpr (List.prefix_append _ _)), List.drop_left]
    exact (nameAfterTag?_eq_some_iff behind name).mpr hnames

theorem not_namesModuleAt_nil (place : Nat) (name : Text) : ¬ NamesModuleAt [] place name := by
  rintro ⟨behind, hbehind, -⟩
  rw [List.drop_nil] at hbehind
  cases hbehind

theorem findModuleTag_eq_none_iff (source : Text) :
    findModuleTag source = none ↔ ∀ place name, ¬ NamesModuleAt source place name := by
  induction source with
  | nil => simp [findModuleTag, not_namesModuleAt_nil]
  | cons c t ih =>
      rw [findModuleTag, Option.or_eq_none_iff, ih, Option.eq_none_iff_forall_ne_some]
      constructor
      · rintro ⟨hstart, hlater⟩ place name hnames
        cases place with
        | zero => exact hstart name ((moduleTagAtStart?_eq_some_iff _ name).mpr hnames)
        | succ place => exact hlater place name hnames
      · intro h
        refine ⟨?_, fun place name => h (place + 1) name⟩
        intro name hname
        exact h 0 name ((moduleTagAtStart?_eq_some_iff _ name).mp hname)

/-- The places of a text where a tag names a module. -/
def moduleTagPlaces (source : Text) : Set Nat :=
  { place | ∃ name, NamesModuleAt source place name }

theorem isLeast_moduleTagPlaces_cons {c : Char} {t : Text} {place : Nat}
    (hstart : moduleTagAtStart? (c :: t) = none) (h : IsLeast (moduleTagPlaces t) place) :
    IsLeast (moduleTagPlaces (c :: t)) (place + 1) := by
  refine ⟨h.1, ?_⟩
  rintro other ⟨name, hnames⟩
  cases other with
  | zero =>
      rw [← moduleTagAtStart?_eq_some_iff, hstart] at hnames
      cases hnames
  | succ other => exact Nat.succ_le_succ (h.2 ⟨name, hnames⟩)

/-- What is found stands at the first place that names a module. -/
theorem exists_isLeast_of_findModuleTag {source name : Text}
    (h : findModuleTag source = some name) :
    ∃ place, IsLeast (moduleTagPlaces source) place ∧ NamesModuleAt source place name := by
  induction source with
  | nil => cases h
  | cons c t ih =>
      rw [findModuleTag, Option.or_eq_some_iff] at h
      rcases h with hstart | ⟨hstart, hlater⟩
      · have hnames := (moduleTagAtStart?_eq_some_iff _ name).mp hstart
        exact ⟨0, ⟨⟨name, hnames⟩, fun _ _ => Nat.zero_le _⟩, hnames⟩
      · obtain ⟨place, hleast, hnames⟩ := ih hlater
        exact ⟨place + 1, isLeast_moduleTagPlaces_cons hstart hleast, hnames⟩

theorem NamesModuleAt.unique {source name other : Text} {place : Nat}
    (h : NamesModuleAt source place name) (h' : NamesModuleAt source place other) :
    name = other := by
  obtain ⟨behind, hbehind, hname⟩ := h
  obtain ⟨behind', hbehind', hother⟩ := h'
  obtain rfl : behind = behind' := List.append_cancel_left (hbehind.symm.trans hbehind')
  rw [← nameAfterTag?_eq_some_iff] at hname hother
  exact Option.some.inj (hname.symm.trans hother)

theorem findModuleTag_eq_some_iff (source name : Text) :
    findModuleTag source = some name ↔
      ∃ place, IsLeast (moduleTagPlaces source) place ∧ NamesModuleAt source place name := by
  constructor
  · exact exists_isLeast_of_findModuleTag
  · rintro ⟨place, hleast, hnames⟩
    rcases hfound : findModuleTag source with _ | found
    · exact absurd hnames ((findModuleTag_eq_none_iff source).mp hfound place name)
    · obtain ⟨place', hleast', hnames'⟩ := exists_isLeast_of_findModuleTag hfound
      obtain rfl := hleast.unique hleast'
      rw [hnames.unique hnames']

/-- No tag starts in a text without an at sign. -/
theorem findModuleTag_append_of_notMem {before : Text} (h : '@' ∉ before) (t : Text) :
    findModuleTag (before ++ t) = findModuleTag t := by
  induction before with
  | nil => rfl
  | cons c rest ih =>
      have hc : c ≠ '@' := fun hc => h (hc ▸ List.mem_cons_self)
      have hstart : moduleTagAtStart? (c :: (rest ++ t)) = none := by
        rw [Option.eq_none_iff_forall_ne_some]
        intro name hname
        obtain ⟨behind, hbehind, -⟩ := (moduleTagAtStart?_eq_some_iff _ name).mp hname
        exact hc (List.cons.inj hbehind).1
      rw [List.cons_append, findModuleTag, hstart, Option.none_or,
        ih fun hrest => h (List.mem_cons_of_mem c hrest)]

theorem ModuleName.resolve_of_findModuleTag {source name : Text}
    (h : findModuleTag source = some name) (path : Text) :
    ModuleName.resolve source path = ⟨name, true⟩ := by
  rw [ModuleName.resolve, h]

theorem ModuleName.explicit_resolve (source path : Text) :
    (ModuleName.resolve source path).explicit = (findModuleTag source).isSome := by
  rw [ModuleName.resolve]
  cases findModuleTag source <;> rfl

/-- The module found in a text is the one named at the first place that names one,
and none is found just if there is no such place.  So a module name is explicit
just if there is one, and then it is not empty and holds neither blanks nor stars. -/
theorem findModuleTag_finds_first (source : Text) :
    (∀ name, findModuleTag source = some name ↔
      ∃ place, IsLeast (moduleTagPlaces source) place ∧ NamesModuleAt source place name) ∧
    (findModuleTag source = none ↔ ∀ place name, ¬ NamesModuleAt source place name) ∧
    ∀ path,
      ((ModuleName.resolve source path).explicit = true ↔
        ∃ place name, NamesModuleAt source place name) ∧
      ((ModuleName.resolve source path).explicit = true →
        findModuleTag source = some (ModuleName.resolve source path).name ∧
        (ModuleName.resolve source path).name ≠ [] ∧
        ∀ c ∈ (ModuleName.resolve source path).name, isBlank c = false ∧ c ≠ '*') := by
  refine ⟨findModuleTag_eq_some_iff source, findModuleTag_eq_none_iff source, ?_⟩
  intro path
  rw [ModuleName.explicit_resolve]
  constructor
  · rw [Option.isSome_iff_ne_none, ne_eq, findModuleTag_eq_none_iff]
    simp only [not_forall, not_not]
  · intro hfound
    obtain ⟨name, hname⟩ := Option.isSome_iff_exists.mp hfound
    obtain ⟨place, -, behind, -, hnames⟩ := (findModuleTag_eq_some_iff source name).mp hname
    rw [ModuleName.resolve_of_findModuleTag hname path]
    exact ⟨hname, hnames.name_ne_nil, hnames.chars⟩

namespace ModuleSearchWitness

/-- Tags without a gap, with a longer word and without a name stand before the one
that names the module, and one more follows it. -/
def source : Text :=
  "@module\n@modules x @module \t* @module@module  net*/ @module late".toList

end ModuleSearchWitness

theorem findModuleTag_finds_first_net :
    (ModuleName.resolve ModuleSearchWitness.source "a.bs".toList).explicit = true ∧
      (ModuleName.resolve ModuleSearchWitness.source "a.bs".toList).name = "net".toList ∧
      ∃ place, IsLeast (moduleTagPlaces ModuleSearchWitness.source) place ∧
        NamesModuleAt ModuleSearchWitness.source place "net".toList := by
  obtain ⟨hfirst, -, hresolve⟩ := findModuleTag_finds_first ModuleSearchWitness.source
  have hexplicit : (ModuleName.resolve ModuleSearchWitness.source "a.bs".toList).explicit = true :=
    by decide
  have hnet : findModuleTag ModuleSearchWitness.source = some "net".toList := by decide
  obtain ⟨hname, -, -⟩ := (hresolve "a.bs".toList).2 hexplicit
  exact ⟨hexplicit, Option.some.inj (hname.symm.trans hnet), (hfirst _).mp hnet⟩

end DocWeave
