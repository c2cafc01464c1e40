/-
Clauses of tag lines.  The opener of a clause is matched by the first closer
that no opener inside the clause has a use for.  What stands between the two is
balanced, and a balanced text between the two is what is read; where there is no
such closer, no beginning of the text has more closers than openers.
-/
import DocWeave.Proofs.Text.Trimming
import DocWeave.Tag.Line
import Mathlib.Data.List.Infix

namespace DocWeave

/-- No beginning of the text has more closers than `depth` and its own openers
allow for. -/
def Text.StaysOpen (opener closer : Char) (depth : Nat) (t : Text) : Prop :=
  ∀ start, start <+: t → start.count closer ≤ depth + start.count opener

instance (opener closer : Char) (depth : Nat) (t : Text) :
    Decidable (t.StaysOpen opener closer depth) :=
  decidable_of_iff (∀ start ∈ t.inits, start.count closer ≤ depth + start.count opener)
    (by simp only [Text.StaysOpen, List.mem_inits])

/-- Equally many openers and closers, and no beginning with more closers. -/
structure Text.Balanced (opener closer : Char) (t : Text) : Prop where
  staysOpen : t.StaysOpen opener closer 0
  count_eq : t.count closer = t.count opener

instance (opener closer : Char) (t : Text) : Decidable (t.Balanced opener closer) :=
  decidable_of_iff (t.StaysOpen opener closer 0 ∧ t.count closer = t.count opener)
    ⟨fun h => ⟨h.1, h.2⟩, fun h => ⟨h.staysOpen, h.count_eq⟩⟩

variable {opener closer : Char} {depth : Nat} {t : Text}

theorem Text.staysOpen_nil : Text.StaysOpen opener closer depth [] := by
  intro start hstart
  rw [List.prefix_nil.mp hstart]
  exact Nat.zero_le _

/-- A character in front counts in every beginning but the empty one. -/
theorem Text.staysOpen_cons (c : Char) :
    Text.StaysOpen opener closer depth (c :: t) ↔
      ∀ start, start <+: t →
        (c :: start).count closer ≤ depth + (c :: start).count opener := by
  constructor
  · intro h start hstart
    exact h (c :: start) ((List.prefix_cons_inj c).mpr hstart)
  · intro h start hstart
    rcases List.prefix_cons_iff.mp hstart with rfl | ⟨later, rfl, hlater⟩
    · exact Nat.zero_le _
    · exact h later hlater

theorem Text.staysOpen_opener (hne : opener ≠ closer) :
    Text.StaysOpen opener closer depth (opener :: t) ↔
      Text.StaysOpen opener closer (depth + 1) t := by
  rw [Text.staysOpen_cons]
  simp only [List.count_cons_self, List.count_cons_of_ne hne, Text.StaysOpen, Nat.add_assoc,
    Nat.add_comm 1]

theorem Text.not_staysOpen_closer (hne : opener ≠ closer) :
    ¬ Text.StaysOpen opener closer 0 (closer :: t) := by
  rw [Text.staysOpen_cons]
  intro h
  have hclosed := h [] List.nil_prefix
  simp [List.count_cons_of_ne hne.symm] at hclosed

theorem Text.staysOpen_closer (hne : opener ≠ closer) :
    Text.StaysOpen opener closer (depth + 1) (closer :: t) ↔
      Text.StaysOpen opener closer depth t := by
  rw [Text.staysOpen_cons]
  simp only [List.count_cons_self, List.count_cons_of_ne hne.symm, Text.StaysOpen]
  constructor
  · intro h start hstart
    have hle := h start hstart
    omega
  · intro h start hstart
    have hle := h start hstart
    omega

theorem Text.staysOpen_other {c : Char} (hopener : c ≠ opener) (hcloser : c ≠ closer) :
    Text.StaysOpen opener closer depth (c :: t) ↔ Text.StaysOpen opener closer depth t := by
  rw [Text.staysOpen_cons]
  simp only [List.count_cons_of_ne hopener, List.count_cons_of_ne hcloser, Text.StaysOpen]

theorem Text.staysOpen_of_free (hcloser : closer ∉ t) : t.StaysOpen opener closer depth := by
  intro start hstart
  have hnone : start.count closer = 0 :=
    List.count_eq_zero.mpr fun hmem => hcloser (hstart.subset hmem)
  omega

theorem Text.balanced_of_free (hopener : opener ∉ t) (hcloser : closer ∉ t) :
    t.Balanced opener closer where
  staysOpen := Text.staysOpen_of_free hcloser
  count_eq := by rw [List.count_eq_zero.mpr hopener, List.count_eq_zero.mpr hcloser]

/-- Balanced texts stay balanced when they are put together. -/
theorem Text.Balanced.append {u : Text} (ht : t.Balanced opener closer)
    (hu : u.Balanced opener closer) : Text.Balanced opener closer (t ++ u) where
  staysOpen := by
    rintro start ⟨rest, hrest⟩
    rcases List.append_eq_append_iff.mp hrest with ⟨more, hmore, -⟩ | ⟨later, rfl, hlater⟩
    · exact ht.staysOpen start ⟨more, hmore.symm⟩
    · have hle := hu.staysOpen later ⟨rest, hlater.symm⟩
      rw [List.count_append, List.count_append, ht.count_eq]
      omega
  count_eq := by
    rw [List.count_append, List.count_append, ht.count_eq, hu.count_eq]

theorem closing?_opener (t : Text) :
    closing? opener closer depth (opener :: t) =
      (closing? opener closer (depth + 1) t).map fun r => (opener :: r.1, r.2) := by
  simp [closing?]

theorem closing?_closer_zero (hne : opener ≠ closer) (t : Text) :
    closing? opener closer 0 (closer :: t) = some ([], t) := by
  simp [closing?, hne.symm]

theorem closing?_closer_succ (hne : opener ≠ closer) (t : Text) :
    closing? opener closer (depth + 1) (closer :: t) =
      (closing? opener closer depth t).map fun r => (closer :: r.1, r.2) := by
  simp [closing?, hne.symm]

theorem closing?_other {c : Char} (hopener : c ≠ opener) (hcloser : c ≠ closer) (t : Text) :
    closing? opener closer depth (c :: t) =
      (closing? opener closer depth t).map fun r => (c :: r.1, r.2) := by
  simp [closing?, hopener, hcloser]

/-- A clause is never closed exactly when its text stays open. -/
theorem closing?_eq_none_iff (hne : opener ≠ closer) :
    closing? opener closer depth t = none ↔ t.StaysOpen opener closer depth := by
  induction t generalizing depth with
  | nil => simp only [closing?, Text.staysOpen_nil]
  | cons c rest ih =>
      by_cases hopener : c = opener
      · subst hopener
        rw [closing?_opener, Option.map_eq_none_iff, ih, Text.staysOpen_opener hne]
      · by_cases hcloser : c = closer
        · subst hcloser
          cases depth with
          | zero => simp [closing?_closer_zero hne, Text.not_staysOpen_closer hne]
          | succ d =>
              rw [closing?_closer_succ hne, Option.map_eq_none_iff, ih, Text.staysOpen_closer hne]
        · rw [closing?_other hopener hcloser, Option.map_eq_none_iff, ih,
            Text.staysOpen_other hopener hcloser]

/-- A text that stays open is passed over, and leaves as many openers to match
as it has more openers than closers. -/
theorem closing?_append (hne : opener ≠ closer) {inner : Text}
    (hinner : inner.StaysOpen opener closer depth) (t : Text) :
    closing? opener closer depth (inner ++ t) =
      (closing? opener closer (depth + inner.count opener - inner.count closer) t).map
        fun r => (inner ++ r.1, r.2) := by
  induction inner generalizing depth with
  | nil => simp
  | cons c rest ih =>
      by_cases hopener : c = opener
      · subst hopener
        have hdepth : depth + (c :: rest).count c - (c :: rest).count closer =
            depth + 1 + rest.count c - rest.count closer := by
          rw [List.count_cons_self, List.count_cons_of_ne hne]
          omega
        rw [List.cons_append, closing?_opener, ih ((Text.staysOpen_opener hne).mp hinner), hdepth,
          Option.map_map]
        rfl
      · by_cases hcloser : c = closer
        · subst hcloser
          cases depth with
          | zero => exact absurd hinner (Text.not_staysOpen_closer hne)
          | succ d =>
              have hdepth : d + 1 + (c :: rest).count opener - (c :: rest).count c =
                  d + rest.count opener - rest.count c := by
                rw [List.count_cons_self, List.count_cons_of_ne hopener]
                omega
              rw [List.cons_append, closing?_closer_succ hne,
                ih ((Text.staysOpen_closer hne).mp hinner), hdepth, Option.map_map]
              rfl
        · rw [List.count_cons_of_ne hopener, List.count_cons_of_ne hcloser, List.cons_append,
            closing?_other hopener hcloser,
            ih ((Text.staysOpen_other hopener hcloser).mp hinner), Option.map_map]
          rfl

/-- A balanced text before a closer is read as a clause. -/
theorem closing?_of_balanced (hne : opener ≠ closer) {inner : Text}
    (hinner : inner.Balanced opener closer) (rest : Text) :
    closing? opener closer 0 (inner ++ closer :: rest) = some (inner, rest) := by
  have hdepth : 0 + inner.count opener - inner.count closer = 0 := by
    rw [hinner.count_eq]
    omega
  rw [closing?_append hne hinner.staysOpen, hdepth]
  rw [closing?_closer_zero hne, Option.map_some, List.append_nil]

/-- What is read as a closed clause stands before its closer and what follows.
It stays open up to there, and then has used up the openers read before. -/
theorem closing?_sound (hne : opener ≠ closer) {clause : Text × Text}
    (h : closing? opener closer depth t = some clause) :
    t = clause.1 ++ closer :: clause.2 ∧ clause.1.StaysOpen opener closer depth ∧
      clause.1.count closer = depth + clause.1.count opener := by
  induction t generalizing depth clause with
  | nil => cases h
  | cons c rest ih =>
      by_cases hopener : c = opener
      · subst hopener
        rw [closing?_opener] at h
        obtain ⟨later, hlater, rfl⟩ := Option.map_eq_some_iff.mp h
        obtain ⟨htext, hopen, hcount⟩ := ih hlater
        refine ⟨congrArg (c :: ·) htext, (Text.staysOpen_opener hne).mpr hopen, ?_⟩
        rw [List.count_cons_self, List.count_cons_of_ne hne]
        omega
      · by_cases hcloser : c = closer
        · subst hcloser
          cases depth with
          | zero =>
              rw [closing?_closer_zero hne] at h
              obtain rfl := Option.some.inj h
              exact ⟨rfl, Text.staysOpen_nil, rfl⟩
          | succ d =>
              rw [closing?_closer_succ hne] at h
              obtain ⟨later, hlater, rfl⟩ := Option.map_eq_some_iff.mp h
              obtain ⟨htext, hopen, hcount⟩ := ih hlater
              refine ⟨congrArg (c :: ·) htext, (Text.staysOpen_closer hne).mpr hopen, ?_⟩
              rw [List.count_cons_self, List.count_cons_of_ne hopener]
              omega
        · rw [closing?_other hopener hcloser] at h
          obtain ⟨later, hlater, rfl⟩ := Option.map_eq_some_iff.mp h
          obtain ⟨htext, hopen, hcount⟩ := ih hlater
          refine ⟨congrArg (c :: ·) htext,
            (Text.staysOpen_other hopener hcloser).mpr hopen, ?_⟩
          rw [List.count_cons_of_ne hopener, List.count_cons_of_ne hcloser]
          exact hcount

/-- A clause is never closed exactly when no stretch of the text from its opener
on has as many openers as closers. -/
theorem closing?_eq_none_iff_uneven (hne : opener ≠ closer) :
    closing? opener closer 0 t = none ↔
      ∀ stretch, stretch <+: opener :: t → stretch ≠ [] →
        stretch.count opener ≠ stretch.count closer := by
  constructor
  · intro hnone stretch hstretch hstart
    rcases List.prefix_cons_iff.mp hstretch with rfl | ⟨start, rfl, hprefix⟩
    · exact absurd rfl hstart
    · have hle := (closing?_eq_none_iff hne).mp hnone start hprefix
      rw [List.count_cons_self, List.count_cons_of_ne hne]
      omega
  · intro huneven
    rcases hclosing : closing? opener closer 0 t with _ | clause
    · rfl
    · obtain ⟨htext, -, hcount⟩ := closing?_sound hne hclosing
      have hstretch : opener :: (clause.1 ++ [closer]) <+: opener :: t :=
        ⟨clause.2, by simp [htext]⟩
      have heven : (opener :: (clause.1 ++ [closer])).count opener =
          (opener :: (clause.1 ++ [closer])).count closer := by
        simp [hne, hne.symm, hcount]
      exact absurd heven (huneven _ hstretch (List.cons_ne_nil _ _))

/-- Blanks around a text have no part in its balance. -/
theorem Text.Balanced.strip (hopener : isBlank opener = false) (hcloser : isBlank closer = false)
    (h : t.Balanced opener closer) : t.strip.Balanced opener closer := by
  obtain ⟨before, after, ht, hbefore, hafter⟩ := t.exists_eq_strip_between
  have hnone : ∀ c, isBlank c = false → ∀ blanks : Text, (∀ b ∈ blanks, isBlank b = true) →
      blanks.count c = 0 := by
    intro c hc blanks hblanks
    apply List.count_eq_zero.mpr
    intro hmem
    rw [hblanks c hmem] at hc
    cases hc
  constructor
  · intro start hstart
    obtain ⟨more, hmore⟩ := hstart
    have hle := h.staysOpen (before ++ start) ⟨more ++ after, by rw [ht, ← hmore]; simp⟩
    simpa [hnone closer hcloser before hbefore, hnone opener hopener before hbefore] using hle
  · have heq := h.count_eq
    rw [ht] at heq
    simpa [hnone closer hcloser before hbefore, hnone opener hopener before hbefore,
      hnone closer hcloser after hafter, hnone opener hopener after hafter] using heq

/-- A type that is read is balanced, or else has been cut at a blank. -/
theorem readType_balanced_or {t type : Text} (h : (readType t).type = some type) :
    type.Balanced '{' '}' ∨ ∀ c ∈ type, isBlank c = false := by
  unfold readType at h
  split at h
  · rename_i rest
    obtain ⟨rfl, -⟩ := (Text.given?_eq_some_iff _ _).mp h
    unfold readClause
    cases hclosing : closing? '{' '}' 0 rest with
    | some clause =>
        obtain ⟨-, hopen, hcount⟩ := closing?_sound (by decide) hclosing
        have hinner : clause.1.Balanced '{' '}' := ⟨hopen, by rw [hcount, Nat.zero_add]⟩
        exact Or.inl (hinner.strip (by decide) (by decide))
    | none =>
        refine Or.inr fun c hc => ?_
        obtain ⟨before, after, htext, -⟩ :=
          Text.exists_eq_strip_between (rest.takeWhile (!isBlank ·))
        have hmem : c ∈ rest.takeWhile (!isBlank ·) := by
          rw [htext]
          exact List.mem_append_left _ (List.mem_append_right _ hc)
        simpa using List.mem_takeWhile_imp hmem
  · cases h

end DocWeave
