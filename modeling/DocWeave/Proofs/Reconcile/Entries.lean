/-
The lines a block has under each kind.  A block is made from a list of entries,
a few lines of one kind after another; what stands under a kind is read off
the parts of that list one by one.
-/
import DocWeave.Reconcile.Container
import Mathlib.Data.List.Induction
import Mathlib.Data.List.Nodup

namespace DocWeave

/-- The lines given under a kind. -/
def linesUnder (kind : TagKind) (entries : List (TagKind × Text)) : List Text :=
  (entries.filter (·.1 = kind)).map (·.2)

/-- An added line stands behind the others of its kind and changes no other kind. -/
theorem TagGroups.linesOf_insert (groups : TagGroups) (kind other : TagKind) (line : Text) :
    (groups.insert kind line).linesOf other =
      if other = kind then groups.linesOf other ++ [line] else groups.linesOf other := by
  induction groups with
  | nil =>
      by_cases h : other = kind
      · simp [TagGroups.insert, TagGroups.linesOf, h]
      · simp [TagGroups.insert, TagGroups.linesOf, h, Ne.symm h]
  | cons group rest ih =>
      by_cases hkind : group.1 = kind
      · by_cases h : other = kind
        · simp [TagGroups.insert, TagGroups.linesOf, hkind, h]
        · simp [TagGroups.insert, TagGroups.linesOf, hkind, h, Ne.symm h]
      · by_cases h : group.1 = other
        · have hne : other ≠ kind := fun heq => hkind (h.trans heq)
          simp [TagGroups.insert, TagGroups.linesOf, h, hne]
        · simp [TagGroups.insert, TagGroups.linesOf, hkind, h, ih]

theorem TagGroups.linesOf_foldl_insert (entries : List (TagKind × Text)) (groups : TagGroups)
    (kind : TagKind) :
    TagGroups.linesOf kind (entries.foldl (fun g e => TagGroups.insert e.1 e.2 g) groups) =
      groups.linesOf kind ++ linesUnder kind entries := by
  induction entries generalizing groups with
  | nil => simp [linesUnder]
  | cons entry rest ih =>
      rw [List.foldl_cons, ih, TagGroups.linesOf_insert]
      by_cases h : entry.1 = kind
      · simp [linesUnder, h]
      · have hne : kind ≠ entry.1 := Ne.symm h
        simp [linesUnder, h, hne]

/-- The lines of a kind are those given under it, in the order they were given. -/
theorem DocBlock.get_ofEntries (entries : List (TagKind × Text)) (kind : TagKind) :
    (DocBlock.ofEntries entries).get kind = linesUnder kind entries := by
  rw [DocBlock.get, DocBlock.ofEntries, TagGroups.linesOf_foldl_insert]
  rfl

theorem entries_insert_perm (groups : TagGroups) (kind : TagKind) (line : Text) :
    (DocBlock.entries { groups := groups.insert kind line }).Perm
      ((kind, line) :: DocBlock.entries { groups := groups }) := by
  induction groups with
  | nil => exact List.Perm.refl _
  | cons group rest ih =>
      rw [TagGroups.insert]
      split
      · rename_i hkind
        subst hkind
        simp only [DocBlock.entries, List.flatMap_cons, List.map_append, List.map_cons,
          List.map_nil, List.append_assoc, List.singleton_append]
        exact List.perm_middle
      · exact (ih.append_left _).trans List.perm_middle

/-- A block has the lines it was made from and no others, kind by kind. -/
theorem entries_ofEntries_perm (entries : List (TagKind × Text)) :
    (DocBlock.ofEntries entries).entries.Perm entries := by
  have hfold : ∀ groups : TagGroups,
      (DocBlock.entries
        { groups := entries.foldl (fun groups e => groups.insert e.1 e.2) groups }).Perm
          (entries ++ DocBlock.entries { groups := groups }) := by
    induction entries with
    | nil => exact fun groups => List.Perm.refl _
    | cons entry rest ih =>
        intro groups
        have hinsert := entries_insert_perm groups entry.1 entry.2
        exact ((ih _).trans (hinsert.append_left rest)).trans List.perm_middle
  have hall := hfold []
  rwa [show DocBlock.entries { groups := [] } = [] from rfl, List.append_nil] at hall

/-- A line opens a group at the end if its kind has none yet. -/
theorem TagGroups.kinds_insert (groups : TagGroups) (kind : TagKind) (line : Text) :
    (groups.insert kind line).map Prod.fst =
      if kind ∈ groups.map Prod.fst then groups.map Prod.fst
      else groups.map Prod.fst ++ [kind] := by
  induction groups with
  | nil => rfl
  | cons group rest ih =>
      by_cases hkind : group.1 = kind
      · simp [TagGroups.insert, hkind]
      · simp only [TagGroups.insert, hkind, ↓reduceIte, List.map_cons, ih, List.mem_cons,
          Ne.symm hkind, false_or]
        split <;> rfl

theorem TagGroups.nodup_kinds_insert {groups : TagGroups} (h : (groups.map Prod.fst).Nodup)
    (kind : TagKind) (line : Text) : ((groups.insert kind line).map Prod.fst).Nodup := by
  rw [TagGroups.kinds_insert]
  split
  · exact h
  · rename_i hfresh
    exact h.append (List.nodup_singleton kind) (List.disjoint_singleton.mpr hfresh)

theorem TagGroups.nodup_kinds_foldl_insert (entries : List (TagKind × Text)) {groups : TagGroups}
    (h : (groups.map Prod.fst).Nodup) :
    ((entries.foldl (fun g e => TagGroups.insert e.1 e.2 g) groups).map Prod.fst).Nodup := by
  induction entries generalizing groups with
  | nil => exact h
  | cons entry rest ih => exact ih (TagGroups.nodup_kinds_insert h entry.1 entry.2)

/-- The kinds come in the order they first came up. -/
theorem TagGroups.kinds_foldl_insert (entries : List (TagKind × Text)) :
    (entries.foldl (fun g e => TagGroups.insert e.1 e.2 g) []).map Prod.fst =
      (entries.map Prod.fst).eraseDups := by
  induction entries using List.reverseRecOn with
  | nil => rfl
  | append_singleton entries entry ih =>
      rw [List.foldl_concat, TagGroups.kinds_insert, ih, List.map_append, List.eraseDups_append]
      simp only [List.mem_eraseDups]
      split
      · rename_i hseen
        simp [List.removeAll, hseen]
      · rename_i hfresh
        simp [List.removeAll, hfresh, List.eraseDups_cons]

/-- Where no kind has two groups, the lines are those of each kind in turn. -/
theorem TagGroups.flatMap_lines {groups : TagGroups} (h : (groups.map Prod.fst).Nodup) :
    groups.flatMap Prod.snd = (groups.map Prod.fst).flatMap fun kind => groups.linesOf kind := by
  induction groups with
  | nil => rfl
  | cons group rest ih =>
      obtain ⟨hfresh, hrest⟩ := List.nodup_cons.mp h
      have hlater : ∀ kind ∈ rest.map Prod.fst,
          TagGroups.linesOf kind (group :: rest) = TagGroups.linesOf kind rest := by
        intro kind hkind
        have hne : group.1 ≠ kind := by
          rintro rfl
          exact hfresh hkind
        simp [TagGroups.linesOf, hne]
      rw [List.map_cons, List.flatMap_cons, List.flatMap_cons, List.flatMap_congr hlater, ih hrest]
      simp [TagGroups.linesOf]

@[simp] theorem linesUnder_nil (kind : TagKind) : linesUnder kind [] = [] := rfl

@[simp] theorem linesUnder_append (kind : TagKind) (a b : List (TagKind × Text)) :
    linesUnder kind (a ++ b) = linesUnder kind a ++ linesUnder kind b := by
  simp [linesUnder]

@[simp] theorem linesUnder_cons (kind other : TagKind) (line : Text)
    (rest : List (TagKind × Text)) :
    linesUnder kind ((other, line) :: rest) =
      if other = kind then line :: linesUnder kind rest else linesUnder kind rest := by
  by_cases h : other = kind
  · simp [linesUnder, h]
  · simp [linesUnder, h]

/-- Lines of one kind stand under that kind and under no other. -/
@[simp] theorem linesUnder_map (kind other : TagKind) (lines : List Text) :
    linesUnder kind (lines.map (other, ·)) = if other = kind then lines else [] := by
  induction lines with
  | nil => simp
  | cons line rest ih =>
      rw [List.map_cons, linesUnder_cons, ih]
      by_cases h : other = kind
      · simp [h]
      · simp [h]

theorem linesUnder_eq_nil {kind : TagKind} {entries : List (TagKind × Text)}
    (h : ∀ entry ∈ entries, entry.1 ≠ kind) : linesUnder kind entries = [] := by
  rw [linesUnder, List.map_eq_nil_iff, List.filter_eq_nil_iff]
  intro entry hentry
  simp [h entry hentry]

theorem linesUnder_parentEntry {kind : TagKind} (hkind : kind ≠ .parent)
    (parent : Option Text) :
    linesUnder kind (parent.map
      fun name => (TagKind.parent, "@extends ".toList ++ name)).toList = [] := by
  apply linesUnder_eq_nil
  intro entry hentry
  obtain ⟨name, -, rfl⟩ := Option.map_eq_some_iff.mp (Option.mem_toList.mp hentry)
  exact hkind.symm

theorem linesUnder_propertyLines {kind : TagKind} (hkind : kind ≠ .property)
    (properties : List Property) :
    linesUnder kind (properties.map fun p => (TagKind.property, propertyLine p)) = [] := by
  apply linesUnder_eq_nil
  intro entry hentry
  obtain ⟨p, -, rfl⟩ := List.mem_map.mp hentry
  exact hkind.symm

@[simp] theorem linesUnder_accessEntries {kind : TagKind} (hkind : kind ≠ .access)
    (options : Options) (name : Text) (visibility : Visibility) :
    linesUnder kind (accessEntries options name visibility) = [] := by
  unfold accessEntries
  split
  · simp [hkind.symm]
  · rfl

@[simp] theorem linesUnder_memberEntries {kind : TagKind} (hkind : kind ≠ .memberOf)
    (moduleName scope : Option Text) :
    linesUnder kind (memberEntries moduleName scope) = [] := by
  unfold memberEntries
  cases memberLine? moduleName scope with
  | none => rfl
  | some line => simp [hkind.symm]

@[simp] theorem linesUnder_roleEntries {kind : TagKind} (hoverride : kind ≠ .override)
    (hconstructor : kind ≠ .constructor) (options : Options) (s : Signature) :
    linesUnder kind (roleEntries options s) = [] := by
  unfold roleEntries
  split
  · rfl
  · rw [linesUnder_append]
    split <;> split <;> simp [hoverride.symm, hconstructor.symm]

/-- A block holds some lines: its kinds stand in the order they first came up, and
under each kind the lines given under it in theirs. -/
structure DocBlock.Holds (block : DocBlock) (entries : List (TagKind × Text)) : Prop where
  kinds_nodup : block.kinds.Nodup
  kinds_eq : block.kinds = (entries.map Prod.fst).eraseDups
  get_eq : ∀ kind, block.get kind = linesUnder kind entries
  lines_eq : block.lines = block.kinds.flatMap block.get
  count_eq : ∀ kind, block.count kind = (block.get kind).length
  contains_iff : ∀ kind, block.contains kind = true ↔ 0 < block.count kind

theorem linesUnder_ne_nil_iff (kind : TagKind) (entries : List (TagKind × Text)) :
    linesUnder kind entries ≠ [] ↔ kind ∈ entries.map Prod.fst := by
  rw [Ne, linesUnder, List.map_eq_nil_iff, List.filter_eq_nil_iff]
  simp

theorem DocBlock.holds_of_groups {block : DocBlock} {entries : List (TagKind × Text)}
    (h : block.groups = entries.foldl (fun g e => TagGroups.insert e.1 e.2 g) []) :
    block.Holds entries := by
  have hnodup : block.kinds.Nodup := by
    rw [DocBlock.kinds, h]
    exact TagGroups.nodup_kinds_foldl_insert entries List.nodup_nil
  have hkinds : block.kinds = (entries.map Prod.fst).eraseDups := by
    rw [DocBlock.kinds, h]
    exact TagGroups.kinds_foldl_insert entries
  have hget : ∀ kind, block.get kind = linesUnder kind entries := by
    intro kind
    rw [DocBlock.get, h, TagGroups.linesOf_foldl_insert]
    rfl
  have hlines : block.lines = block.groups.flatMap Prod.snd := by
    simp [DocBlock.lines, DocBlock.entries, List.map_flatMap, Function.comp_def]
  refine ⟨hnodup, hkinds, hget, hlines.trans (TagGroups.flatMap_lines hnodup), fun _ => rfl, ?_⟩
  intro kind
  rw [DocBlock.contains, List.contains_iff_mem, hkinds, List.mem_eraseDups, DocBlock.count, hget,
    List.length_pos_iff, linesUnder_ne_nil_iff]

theorem DocBlock.lines_ofEntries (entries : List (TagKind × Text)) :
    (DocBlock.ofEntries entries).lines =
      (entries.map Prod.fst).eraseDups.flatMap fun kind => linesUnder kind entries := by
  have hholds : (DocBlock.ofEntries entries).Holds entries := DocBlock.holds_of_groups rfl
  rw [hholds.lines_eq, hholds.kinds_eq]
  exact List.flatMap_congr fun kind _ => hholds.get_eq kind

theorem DocBlock.lines_ofEntries_map (kind : TagKind) (lines : List Text) :
    (DocBlock.ofEntries (lines.map (kind, ·))).lines = lines := by
  rw [DocBlock.lines_ofEntries]
  cases lines with
  | nil => rfl
  | cons line rest =>
      have hkinds : (((line :: rest).map (kind, ·)).map Prod.fst).eraseDups = [kind] := by
        simp [List.eraseDups_cons, Function.comp_def]
      rw [hkinds, List.flatMap_singleton, linesUnder_map, if_pos rfl]

theorem DocBlock.lines_ofEntries_append {a b : List (TagKind × Text)}
    (h : ∀ x ∈ a, ∀ y ∈ b, x.1 ≠ y.1) :
    (DocBlock.ofEntries (a ++ b)).lines =
      (DocBlock.ofEntries a).lines ++ (DocBlock.ofEntries b).lines := by
  have hfresh : (b.map Prod.fst).removeAll (a.map Prod.fst) = b.map Prod.fst := by
    rw [List.removeAll, List.filter_eq_self]
    intro kind hkind
    obtain ⟨y, hy, rfl⟩ := List.mem_map.mp hkind
    simp only [List.elem_eq_mem, Bool.not_eq_true', decide_eq_false_iff_not, List.mem_map,
      not_exists, not_and]
    exact fun x hx => h x hx y hy
  have hleft : ∀ kind ∈ (a.map Prod.fst).eraseDups,
      linesUnder kind (a ++ b) = linesUnder kind a := by
    intro kind hkind
    obtain ⟨x, hx, rfl⟩ := List.mem_map.mp (List.mem_eraseDups.mp hkind)
    rw [linesUnder_append, linesUnder_eq_nil fun y hy => (h x hx y hy).symm, List.append_nil]
  have hright : ∀ kind ∈ (b.map Prod.fst).eraseDups,
      linesUnder kind (a ++ b) = linesUnder kind b := by
    intro kind hkind
    obtain ⟨y, hy, rfl⟩ := List.mem_map.mp (List.mem_eraseDups.mp hkind)
    rw [linesUnder_append, linesUnder_eq_nil fun x hx => h x hx y hy, List.nil_append]
  rw [DocBlock.lines_ofEntries, DocBlock.lines_ofEntries, DocBlock.lines_ofEntries,
    List.map_append, List.eraseDups_append, hfresh, List.flatMap_append,
    List.flatMap_congr hleft, List.flatMap_congr hright]

/-- Lines given kind by kind come out in the order they were given. -/
theorem DocBlock.lines_ofEntries_groups {groups : TagGroups}
    (h : (groups.map Prod.fst).Nodup) :
    (DocBlock.ofEntries (groups.flatMap fun group => group.2.map (group.1, ·))).lines =
      groups.flatMap Prod.snd := by
  induction groups with
  | nil => rfl
  | cons group rest ih =>
      obtain ⟨hfresh, hrest⟩ := List.nodup_cons.mp h
      rw [List.flatMap_cons, List.flatMap_cons, DocBlock.lines_ofEntries_append,
        DocBlock.lines_ofEntries_map, ih hrest]
      intro x hx y hy
      obtain ⟨line, -, rfl⟩ := List.mem_map.mp hx
      obtain ⟨later, hlater, hy⟩ := List.mem_flatMap.mp hy
      obtain ⟨line', -, rfl⟩ := List.mem_map.mp hy
      intro heq
      exact hfresh (List.mem_map.mpr ⟨later, hlater, heq.symm⟩)

end DocWeave
