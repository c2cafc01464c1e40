/-
Default values located on a line.  The search stops at the first place where the
name stands and from its end on at the first place where the value stands.  It
fails just if there is no such place, and the range it gives otherwise covers the
value again.
-/
import DocWeave.Proofs.Source.Offsets
import DocWeave.Statement.Build
import Mathlib.Order.Bounds.Basic

namespace DocWeave

/-- A text stands in another one with so many characters before it. -/
def Text.OccursAt (pattern t : Text) (place : Nat) : Prop :=
  ∃ before after, t = before ++ (pattern ++ after) ∧ before.length = place

/-- The places of a text where a pattern stands. -/
def Text.places (pattern t : Text) : Set Nat :=
  { place | pattern.OccursAt t place }

/-- The places from some place on where a pattern stands. -/
def Text.placesFrom (pattern t : Text) (start : Nat) : Set Nat :=
  { place | start ≤ place ∧ pattern.OccursAt t place }

section Search

variable {pattern t : Text}

theorem Text.occursAt_zero_iff : pattern.OccursAt t 0 ↔ pattern.isPrefixOf t = true := by
  rw [List.isPrefixOf_iff_prefix]
  constructor
  · rintro ⟨before, after, rfl, hbefore⟩
    obtain rfl := List.eq_nil_of_length_eq_zero hbefore
    exact List.prefix_append pattern after
  · rintro ⟨after, rfl⟩
    exact ⟨[], after, rfl, rfl⟩

theorem Text.occursAt_cons_succ (c : Char) (place : Nat) :
    pattern.OccursAt (c :: t) (place + 1) ↔ pattern.OccursAt t place := by
  constructor
  · rintro ⟨before, after, htext, hbefore⟩
    obtain ⟨d, before, rfl⟩ := List.exists_cons_of_length_eq_add_one hbefore
    exact ⟨before, after, (List.cons.inj htext).2, Nat.succ.inj hbefore⟩
  · rintro ⟨before, after, rfl, rfl⟩
    exact ⟨c :: before, after, rfl, rfl⟩

theorem Text.OccursAt.add_length_le {place : Nat} (h : pattern.OccursAt t place) :
    place + pattern.length ≤ t.length := by
  obtain ⟨before, after, rfl, rfl⟩ := h
  simp only [List.length_append]
  omega

/-- The text between a place where a pattern stands and its end there. -/
theorem Text.OccursAt.drop_take {place : Nat} (h : pattern.OccursAt t place) :
    (t.take (place + pattern.length)).drop place = pattern := by
  obtain ⟨before, after, rfl, rfl⟩ := h
  rw [List.take_length_add_append, List.take_left, List.drop_left]

/-- Behind a part that is cut off a pattern stands where it did before. -/
theorem Text.occursAt_drop {start : Nat} (hstart : start ≤ t.length) (place : Nat) :
    pattern.OccursAt (t.drop start) place ↔ pattern.OccursAt t (start + place) := by
  induction t generalizing start with
  | nil =>
      obtain rfl : start = 0 := Nat.le_zero.mp hstart
      rw [List.drop_zero, Nat.zero_add]
  | cons c rest ih =>
      cases start with
      | zero => rw [List.drop_zero, Nat.zero_add]
      | succ start =>
          rw [List.drop_succ_cons, ih (Nat.le_of_succ_le_succ hstart), Nat.succ_add,
            Text.occursAt_cons_succ]

theorem Text.offset?_cons (pattern : Text) (c : Char) (t : Text) :
    Text.offset? pattern (c :: t) =
      if pattern.isPrefixOf (c :: t) then some 0 else (Text.offset? pattern t).map (· + 1) := rfl

/-- Nothing is found just where the pattern does not stand at all. -/
theorem Text.offset?_eq_none_iff (pattern t : Text) :
    Text.offset? pattern t = none ↔ ∀ place, ¬ pattern.OccursAt t place := by
  induction t with
  | nil =>
      constructor
      · intro h place hoccurs
        obtain ⟨before, after, hnil, -⟩ := hoccurs
        obtain ⟨-, hpattern, -⟩ : before = [] ∧ pattern = [] ∧ after = [] := by simpa using hnil
        rw [hpattern] at h
        cases h
      · intro h
        cases pattern with
        | nil => exact absurd ⟨[], [], rfl, rfl⟩ (h 0)
        | cons c rest => rfl
  | cons c rest ih =>
      rw [Text.offset?_cons]
      constructor
      · intro h place hoccurs
        split at h
        · cases h
        · rename_i hstart
          cases place with
          | zero => exact hstart (Text.occursAt_zero_iff.mp hoccurs)
          | succ place =>
              rw [Option.map_eq_none_iff, ih] at h
              exact h place ((Text.occursAt_cons_succ c place).mp hoccurs)
      · intro h
        have hrest : Text.offset? pattern rest = none :=
          ih.mpr fun place hoccurs => h (place + 1) ((Text.occursAt_cons_succ c place).mpr hoccurs)
        rw [if_neg fun hstart => h 0 (Text.occursAt_zero_iff.mpr hstart), hrest]
        rfl

/-- What is found is the first place where the pattern stands. -/
theorem Text.isLeast_of_offset? {place : Nat} (h : Text.offset? pattern t = some place) :
    IsLeast (pattern.places t) place := by
  induction t generalizing place with
  | nil =>
      cases pattern with
      | nil =>
          obtain rfl := Option.some.inj h
          exact ⟨⟨[], [], rfl, rfl⟩, fun _ _ => Nat.zero_le _⟩
      | cons c rest => cases h
  | cons c rest ih =>
      rw [Text.offset?_cons] at h
      split at h
      · rename_i hstart
        obtain rfl := Option.some.inj h
        exact ⟨Text.occursAt_zero_iff.mpr hstart, fun _ _ => Nat.zero_le _⟩
      · rename_i hstart
        obtain ⟨later, hlater, rfl⟩ := Option.map_eq_some_iff.mp h
        obtain ⟨hoccurs, hleast⟩ := ih hlater
        refine ⟨(Text.occursAt_cons_succ c later).mpr hoccurs, ?_⟩
        intro other hother
        cases other with
        | zero => exact absurd (Text.occursAt_zero_iff.mp hother) hstart
        | succ other =>
            exact Nat.succ_le_succ (hleast ((Text.occursAt_cons_succ c other).mp hother))

end Search

/-- A column where the value stands first from the end of the first name on. -/
def IsDefaultColumn (name value line : Text) (column : Nat) : Prop :=
  ∃ nameAt, IsLeast (name.places line) nameAt ∧
    IsLeast (value.placesFrom line (nameAt + name.length)) column

/-- A line without the name, or without the value from the end of the first name on. -/
def LacksDefault (name value line : Text) : Prop :=
  (∀ place, ¬ name.OccursAt line place) ∨
    ∃ nameAt, IsLeast (name.places line) nameAt ∧
      ∀ place, nameAt + name.length ≤ place → ¬ value.OccursAt line place

/-- The search for a value gives the column of the value or finds that the line
lacks it. -/
theorem defaultColumn?_cases (name value line : Text) :
    (defaultColumn? name value line = none ∧ LacksDefault name value line) ∨
      ∃ column, defaultColumn? name value line = some column ∧
        IsDefaultColumn name value line column := by
  cases hname : Text.offset? name line with
  | none =>
      refine Or.inl ⟨?_, Or.inl ((Text.offset?_eq_none_iff name line).mp hname)⟩
      rw [defaultColumn?, hname]
      rfl
  | some nameAt =>
      have hleast := Text.isLeast_of_offset? hname
      have hend : nameAt + name.length ≤ line.length := Text.OccursAt.add_length_le hleast.1
      have hcolumn : defaultColumn? name value line =
          (Text.offset? value (line.drop (nameAt + name.length))).map
            (nameAt + name.length + ·) := by
        rw [defaultColumn?, hname, Option.map_eq_bind]
        rfl
      cases hvalue : Text.offset? value (line.drop (nameAt + name.length)) with
      | none =>
          refine Or.inl ⟨by rw [hcolumn, hvalue]; rfl, Or.inr ⟨nameAt, hleast, ?_⟩⟩
          intro place hplace hoccurs
          obtain ⟨later, rfl⟩ := Nat.exists_eq_add_of_le hplace
          exact (Text.offset?_eq_none_iff _ _).mp hvalue later
            ((Text.occursAt_drop hend later).mpr hoccurs)
      | some later =>
          obtain ⟨hoccurs, hfirst⟩ := Text.isLeast_of_offset? hvalue
          refine Or.inr ⟨_, by rw [hcolumn, hvalue]; rfl, nameAt, hleast,
            ⟨Nat.le_add_right _ _, (Text.occursAt_drop hend later).mp hoccurs⟩, ?_⟩
          rintro place ⟨hplace, hother⟩
          obtain ⟨other, rfl⟩ := Nat.exists_eq_add_of_le hplace
          exact Nat.add_le_add_left (hfirst ((Text.occursAt_drop hend other).mpr hother)) _

/-- A line that lacks the value has no column for it. -/
theorem LacksDefault.not_isDefaultColumn {name value line : Text}
    (h : LacksDefault name value line) (column : Nat) :
    ¬ IsDefaultColumn name value line column := by
  rintro ⟨nameAt, hleast, ⟨hplace, hoccurs⟩, -⟩
  rcases h with hnowhere | ⟨nameAt', hleast', hlacks⟩
  · exact hnowhere nameAt hleast.1
  · obtain rfl := hleast.unique hleast'
    exact hlacks column hplace hoccurs

/-- Inside the file a line number gives its line. -/
theorem sourceLine_eq_ok {before after : List Text} {text : Text} {number : Int}
    (h : number = before.length + 1) : sourceLine (before ++ text :: after) number = .ok text := by
  have hindex : number - 1 = before.length := by omega
  have hnotBefore : ¬ (before.length : Int) < 0 := by omega
  simp only [sourceLine, hindex, if_neg hnotBefore, Int.toNat_natCast]
  rw [List.getElem?_append_right (Nat.le_refl _), Nat.sub_self]
  rfl

theorem Param.locate_of_sourceLine {source text : Text} {line : Int}
    (h : sourceLine source.lines line = .ok text) (name value : Text) (type : DeclaredType) :
    Param.locate source line name value type =
      match defaultColumn? name value text with
      | none => .error .notFound
      | some column =>
          .ok { name, type
                default := some ⟨⟨line, column⟩, ⟨line, column + value.length⟩⟩ } := by
  rw [Param.locate, h]
  rfl

/-- The range from a column where a value stands up to its end covers the value. -/
theorem slice_of_occursAt {source text value : Text} {before after : List Text} {line : Int}
    {column : Nat} (hlines : source.lines = before ++ text :: after)
    (hline : line = before.length + 1) (h : value.OccursAt text column) :
    SourceRange.slice ⟨⟨line, column⟩, ⟨line, column + value.length⟩⟩ source.lines = value := by
  have hend := h.add_length_le
  have hsplits : SourceRange.Splits ⟨⟨line, column⟩, ⟨line, column + value.length⟩⟩ source
      before [] text after column (column + value.length) :=
    { lines := hlines
      start_line := hline
      start_column := rfl
      stop_line := by rw [List.append_nil]; exact hline
      stop_column := rfl
      first_le := Nat.le_of_add_right_le hend
      last_le := hend
      ordered := Nat.le_add_left_of_le (Nat.le_add_right _ _) }
  exact hsplits.slice_eq.trans h.drop_take

/-- On a line of the file, locating a default fails just if the line lacks the name,
or the value from the end of the first name on.  Otherwise the parameter has the
range of the first such value, whose slice is the value, and the stripped value as
the text of its default. -/
theorem Param.locate_agrees_with_slice (source : Text) (line : Int) (name value : Text)
    (type : DeclaredType) (hfirst : 1 ≤ line) (hlast : line ≤ source.lines.length) :
    let text := source.lines.getD (line.toNat - 1) []
    (Param.locate source line name value type = .error .notFound ↔
      LacksDefault name value text) ∧
    (¬ LacksDefault name value text →
      ∃ (column : Nat) (p : Param),
        IsDefaultColumn name value text column ∧
        Param.locate source line name value type = .ok p ∧
        p = { name, type
              default := some ⟨⟨line, column⟩, ⟨line, column + value.length⟩⟩ } ∧
        SourceRange.slice ⟨⟨line, column⟩, ⟨line, column + value.length⟩⟩ source.lines = value ∧
        ∀ options, (Parameter.of options source.lines p).default = some value.strip) := by
  have hinside : line.toNat - 1 < source.lines.length := by omega
  obtain ⟨before, between, text, after, hlines, hbefore, hbetween, -, htext⟩ :=
    exists_lines_between (Nat.le_refl (line.toNat - 1)) hinside
  obtain rfl : between = [] := by
    rw [List.length_append, hbefore] at hbetween
    exact List.eq_nil_of_length_eq_zero (by omega)
  have hline : line = before.length + 1 := by omega
  have hfound : sourceLine source.lines line = .ok text := by
    rw [hlines]
    exact sourceLine_eq_ok hline
  have hlocate := Param.locate_of_sourceLine hfound name value type
  simp only [← htext]
  rcases defaultColumn?_cases name value text with ⟨hnone, hlacks⟩ | ⟨column, hsome, hcolumn⟩
  · rw [hnone] at hlocate
    exact ⟨iff_of_true hlocate hlacks, fun hnot => absurd hlacks hnot⟩
  · rw [hsome] at hlocate
    refine ⟨iff_of_false (by rw [hlocate]; exact nofun)
      fun hlacks => hlacks.not_isDefaultColumn column hcolumn, ?_⟩
    intro _
    obtain ⟨nameAt, hname, hvalue⟩ := hcolumn
    have hslice := slice_of_occursAt hlines hline hvalue.1.2
    refine ⟨column, _, ⟨nameAt, hname, hvalue⟩, hlocate, rfl, hslice, ?_⟩
    intro options
    exact congrArg (some ∘ Text.strip) hslice

namespace LocatedWitness

/-- A line where the first name is part of another one, and where the values stand
in front of names as well as behind them. -/
def text : Text := "sub aa11(a as integer = 1111, b = 11)".toList

def source : Text := "end sub\n".toList ++ text

end LocatedWitness

theorem Param.locate_agrees_with_slice_overlapping :
    (∃ column p,
      IsDefaultColumn "a".toList "11".toList LocatedWitness.text column ∧
      Param.locate LocatedWitness.source 2 "a".toList "11".toList .absent = .ok p ∧
      p.default = some ⟨⟨2, 6⟩, ⟨2, 8⟩⟩ ∧
      (Parameter.of {} LocatedWitness.source.lines p).default = some "11".toList) ∧
    LacksDefault "b =".toList "1111".toList LocatedWitness.text := by
  have hlast : (2 : Int) ≤ LocatedWitness.source.lines.length := by decide
  obtain ⟨hfails, hfinds⟩ := Param.locate_agrees_with_slice LocatedWitness.source 2 "a".toList
    "11".toList .absent (by decide) hlast
  obtain ⟨hlacks, -⟩ := Param.locate_agrees_with_slice LocatedWitness.source 2 "b =".toList
    "1111".toList .absent (by decide) hlast
  refine ⟨?_, hlacks.mp (by decide)⟩
  obtain ⟨column, p, hcolumn, hlocate, -, -, hdefault⟩ :=
    hfinds fun hnot => absurd (hfails.mpr hnot) (by decide)
  have hlocated : Param.locate LocatedWitness.source 2 "a".toList "11".toList .absent =
      .ok { name := "a".toList, default := some ⟨⟨2, 6⟩, ⟨2, 8⟩⟩ } := by decide
  obtain rfl := Except.ok.inj (hlocate.symm.trans hlocated)
  exact ⟨column, _, hcolumn, hlocate, rfl, hdefault {}⟩

end DocWeave
