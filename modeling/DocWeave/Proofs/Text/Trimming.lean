/-
Trimmed texts: those that neither start nor end with a blank.  Stripping makes
a text trimmed and leaves a trimmed one as it is, so that what is printed from
trimmed parts can be told without running over its blanks.
-/
import DocWeave.Text.Basic
import Mathlib.Data.List.DropRight

namespace DocWeave

/-- The first character is no blank; the empty text has none. -/
def Text.StartsSolid (t : Text) : Prop :=
  ∀ c ∈ t.head?, isBlank c = false

/-- The last character is no blank. -/
def Text.EndsSolid (t : Text) : Prop :=
  ∀ c ∈ t.getLast?, isBlank c = false

/-- A text without blanks at its ends. -/
structure Text.Trimmed (t : Text) : Prop where
  starts : t.StartsSolid
  ends : t.EndsSolid

theorem Text.trimEnd_eq_rdropWhile (t : Text) : t.trimEnd = t.rdropWhile isBlank := rfl

theorem Text.startsSolid_trimStart (t : Text) : t.trimStart.StartsSolid := by
  intro c hc
  have hhead := List.head?_dropWhile_not isBlank t
  rw [← Text.trimStart, Option.mem_def.mp hc] at hhead
  exact hhead

theorem Text.endsSolid_trimEnd (t : Text) : t.trimEnd.EndsSolid := by
  intro c hc
  obtain ⟨hne, rfl⟩ := List.mem_getLast?_eq_getLast hc
  exact Bool.eq_false_iff.mpr (List.rdropWhile_last_not isBlank t hne)

theorem Text.trimStart_of_startsSolid {t : Text} (h : t.StartsSolid) : t.trimStart = t := by
  cases t with
  | nil => rfl
  | cons c rest =>
      have hc : isBlank c = false := h c rfl
      rw [Text.trimStart, List.dropWhile_cons_of_neg (by simp [hc])]

theorem Text.trimEnd_of_endsSolid {t : Text} (h : t.EndsSolid) : t.trimEnd = t := by
  rw [Text.trimEnd_eq_rdropWhile, List.rdropWhile_eq_self_iff]
  intro hne
  exact Bool.eq_false_iff.mp (h _ (List.getLast_mem_getLast? hne))

theorem Text.startsSolid_of_isPrefix {t u : Text} (hstart : t <+: u) (hu : u.StartsSolid) :
    t.StartsSolid := by
  intro c hc
  obtain ⟨rest, rfl⟩ := hstart
  apply hu
  rw [List.head?_append, Option.mem_def.mp hc]
  rfl

theorem Text.endsSolid_of_isSuffix {t u : Text} (hend : t <:+ u) (hu : u.EndsSolid) :
    t.EndsSolid := by
  intro c hc
  obtain ⟨before, rfl⟩ := hend
  apply hu
  rw [List.getLast?_append, Option.mem_def.mp hc]
  rfl

theorem Text.EndsSolid.append {t u : Text} (ht : t.EndsSolid) (hu : u.EndsSolid) :
    Text.EndsSolid (t ++ u) := by
  intro c hc
  rw [List.getLast?_append, Option.mem_def, Option.or_eq_some_iff] at hc
  rcases hc with hc | ⟨-, hc⟩
  · exact hu c hc
  · exact ht c hc

theorem Text.endsSolid_append_of_ne_nil {t u : Text} (hne : u ≠ []) (hu : u.EndsSolid) :
    Text.EndsSolid (t ++ u) := by
  intro c hc
  rw [List.getLast?_append_of_ne_nil t hne] at hc
  exact hu c hc

theorem Text.trimmed_strip (t : Text) : t.strip.Trimmed where
  starts := Text.startsSolid_of_isPrefix (List.rdropWhile_prefix isBlank t.trimStart)
    t.startsSolid_trimStart
  ends := Text.endsSolid_trimEnd t.trimStart

/-- Stripping takes away the blanks around a trimmed text and no more. -/
theorem Text.strip_between {before t after : Text} (hbefore : ∀ c ∈ before, isBlank c = true)
    (ht : t.Trimmed) (hafter : ∀ c ∈ after, isBlank c = true) :
    Text.strip (before ++ t ++ after) = t := by
  have hstart : Text.trimStart (before ++ t ++ after) = Text.trimStart (t ++ after) := by
    rw [List.append_assoc]
    exact List.dropWhile_append_of_pos hbefore
  rw [Text.strip, hstart]
  cases t with
  | nil =>
      have hgone : Text.trimStart ([] ++ after) = [] := List.dropWhile_eq_nil_iff.mpr hafter
      rw [hgone]
      rfl
  | cons c rest =>
      have hsolid : Text.StartsSolid (c :: rest ++ after) := ht.starts
      have hreverse : ∀ d ∈ after.reverse, isBlank d = true := fun d hd =>
        hafter d (List.mem_reverse.mp hd)
      have hend : Text.trimEnd (c :: rest ++ after) = Text.trimEnd (c :: rest) := by
        rw [Text.trimEnd, Text.trimEnd, Text.dropEndWhile, Text.dropEndWhile,
          List.reverse_append, List.dropWhile_append_of_pos hreverse]
      rw [Text.trimStart_of_startsSolid hsolid, hend, Text.trimEnd_of_endsSolid ht.ends]

theorem Text.strip_of_trimmed {t : Text} (h : t.Trimmed) : t.strip = t := by
  rw [Text.strip, Text.trimStart_of_startsSolid h.starts, Text.trimEnd_of_endsSolid h.ends]

theorem Text.strip_eq_self_iff (t : Text) : t.strip = t ↔ t.Trimmed := by
  constructor
  · intro h
    exact h ▸ Text.trimmed_strip t
  · exact Text.strip_of_trimmed

/-- Behind a trimmed text that is not empty only the blanks at the end go. -/
theorem Text.strip_append_of_trimmed {t : Text} (hne : t ≠ []) (ht : t.Trimmed) (u : Text) :
    Text.strip (t ++ u) = t ++ u.trimEnd := by
  have hend : u.trimEnd ++ u.rtakeWhile isBlank = u := List.rdropWhile_append_rtakeWhile
  have hstart : Text.StartsSolid (t ++ u.trimEnd) := by
    intro c hc
    rw [List.head?_append_of_ne_nil t hne] at hc
    exact ht.starts c hc
  have hbefore : ∀ c ∈ ([] : Text), isBlank c = true := nofun
  have hafter : ∀ c ∈ u.rtakeWhile isBlank, isBlank c = true := fun c hc =>
    List.mem_rtakeWhile_imp hc
  have hstrip := Text.strip_between hbefore ⟨hstart, ht.ends.append u.endsSolid_trimEnd⟩ hafter
  rwa [List.nil_append, List.append_assoc, hend] at hstrip

theorem Text.strip_cons_of_blank {c : Char} (hc : isBlank c = true) (t : Text) :
    Text.strip (c :: t) = t.strip := by
  rw [Text.strip, Text.strip, Text.trimStart, List.dropWhile_cons_of_pos hc]
  rfl

theorem Text.strip_trimStart (t : Text) : Text.strip t.trimStart = t.strip := by
  rw [Text.strip, Text.trimStart_of_startsSolid t.startsSolid_trimStart, Text.strip]

/-- A text is its stripped form between two runs of blanks. -/
theorem Text.exists_eq_strip_between (t : Text) :
    ∃ before after, t = before ++ t.strip ++ after ∧ (∀ c ∈ before, isBlank c = true) ∧
      ∀ c ∈ after, isBlank c = true := by
  have hstart : t.takeWhile isBlank ++ t.trimStart = t := List.takeWhile_append_dropWhile
  have hend : t.strip ++ t.trimStart.rtakeWhile isBlank = t.trimStart :=
    List.rdropWhile_append_rtakeWhile
  refine ⟨t.takeWhile isBlank, t.trimStart.rtakeWhile isBlank, ?_, ?_, ?_⟩
  · rw [List.append_assoc, hend, hstart]
  · intro c hc
    exact List.mem_takeWhile_imp hc
  · intro c hc
    exact List.mem_rtakeWhile_imp hc

end DocWeave
