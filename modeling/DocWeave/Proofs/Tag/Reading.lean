/-
How a tag line is read from its front: the tag word ends at the first character
that is no letter or number, the type at its closer, the name at the first
character that cannot stand in one.  Descriptions are written so that they are
set off by one space and end without a blank.
-/
import DocWeave.Proofs.Tag.Clauses

namespace DocWeave

def blankCodes : List Nat :=
  List.range' 0x09 5 ++ List.range' 0x1C 5 ++ List.range' 0x2000 11 ++
    [0x85, 0xA0, 0x1680, 0x2028, 0x2029, 0x202F, 0x205F, 0x3000]

theorem toNat_mem_blankCodes {c : Char} (h : isBlank c = true) : c.toNat ∈ blankCodes := by
  simp only [isBlank, Bool.or_eq_true, Bool.and_eq_true, decide_eq_true_eq, beq_iff_eq] at h
  simp only [blankCodes, List.mem_append, List.mem_range'_1, List.mem_cons, List.not_mem_nil,
    or_false]
  omega

theorem isBlank_of_isIdentChar {c : Char} (h : isIdentChar c = true) : isBlank c = false := by
  have hblanks : ∀ code ∈ blankCodes, isIdentChar (Char.ofNat code) = false := by
    decide +kernel
  rw [Bool.eq_false_iff]
  intro hblank
  have hident := hblanks c.toNat (toNat_mem_blankCodes hblank)
  rw [Char.ofNat_toNat, h] at hident
  cases hident

/-- A text that can stand as a name: some characters, all of them identifier
characters. -/
structure Text.IsIdentifier (t : Text) : Prop where
  ne_nil : t ≠ []
  chars : ∀ c ∈ t, isIdentChar c = true

instance (t : Text) : Decidable t.IsIdentifier :=
  decidable_of_iff (t ≠ [] ∧ t.all isIdentChar = true)
    ⟨fun h => ⟨h.1, List.all_eq_true.mp h.2⟩,
      fun h => ⟨h.ne_nil, List.all_eq_true.mpr h.chars⟩⟩

theorem Text.IsIdentifier.trimmed {t : Text} (h : t.IsIdentifier) : t.Trimmed where
  starts := fun c hc => isBlank_of_isIdentChar (h.chars c (List.mem_of_head? hc))
  ends := fun c hc => isBlank_of_isIdentChar (h.chars c (List.mem_of_getLast? hc))

theorem Text.IsIdentifier.notMem {t : Text} (h : t.IsIdentifier) {c : Char}
    (hc : isIdentChar c = false) : c ∉ t := by
  intro hmem
  rw [h.chars c hmem] at hc
  cases hc

/-- A run of characters that ends where the rest begins. -/
theorem takeWhile_append_of_stop {p : Char → Bool} {run rest : Text}
    (hrun : ∀ c ∈ run, p c = true) (hrest : ∀ c ∈ rest.head?, p c = false) :
    (run ++ rest).takeWhile p = run ∧ (run ++ rest).dropWhile p = rest := by
  rw [List.takeWhile_append_of_pos hrun, List.dropWhile_append_of_pos hrun]
  cases rest with
  | nil => simp
  | cons c more => simp [hrest c rfl]

/-- A line with a tag word, taken apart behind that word. -/
theorem TagLine.parse?_of_word {line word rest : Text}
    (hline : line.strip = '@' :: (word ++ rest))
    (hword : word.all isAlphanumeric = true)
    (hrest : rest.head?.any isAlphanumeric = false) :
    TagLine.parse? line =
      (tagRole? word).map fun role =>
        let typed := readType rest.trimStart
        let named := readName role typed.type typed.rest
        { role
          raw := line
          type := typed.type
          name := named.name
          optional := named.optional
          default := named.default
          description := named.rest.strip
          malformed :=
            typed.broken || named.broken || (role == .param && named.name.isNone) } := by
  have hstop : ∀ c ∈ rest.head?, isAlphanumeric c = false := by
    intro c hc
    rwa [Option.mem_def.mp hc] at hrest
  obtain ⟨htake, hdrop⟩ := takeWhile_append_of_stop (List.all_eq_true.mp hword) hstop
  unfold TagLine.parse?
  rw [hline]
  simp only [htake, hdrop]

theorem isBlank_of_isAlphanumeric {c : Char} (h : isAlphanumeric c = true) :
    isBlank c = false :=
  isBlank_of_isIdentChar (by simp [isIdentChar, h])

/-- The word behind the at sign says which role a line has, whatever follows. -/
theorem TagLine.role_parse?_of_word {word rest : Text}
    (hword : word.all isAlphanumeric = true)
    (hrest : rest.head?.any isAlphanumeric = false) :
    (TagLine.parse? ('@' :: (word ++ rest))).map TagLine.role = tagRole? word := by
  have hsolid : ∀ c ∈ '@' :: word, isBlank c = false := by
    intro c hc
    rcases List.mem_cons.mp hc with rfl | hmem
    · rfl
    · exact isBlank_of_isAlphanumeric (List.all_eq_true.mp hword c hmem)
  have hfront : Text.Trimmed ('@' :: word) :=
    ⟨fun c hc => hsolid c (List.mem_of_head? hc), fun c hc => hsolid c (List.mem_of_getLast? hc)⟩
  have hstrip : Text.strip ('@' :: (word ++ rest)) = '@' :: (word ++ rest.trimEnd) :=
    Text.strip_append_of_trimmed (List.cons_ne_nil '@' word) hfront rest
  have hend : rest.trimEnd.head?.any isAlphanumeric = false := by
    obtain ⟨blanks, hblanks⟩ : rest.trimEnd <+: rest := List.rdropWhile_prefix isBlank rest
    rcases hhead : rest.trimEnd.head? with _ | c
    · rfl
    · rw [← hblanks, List.head?_append, hhead] at hrest
      exact hrest
  rw [TagLine.parse?_of_word hstrip hword hend, Option.map_map]
  exact Option.map_id'

/-- A line whose parts are known is what these make of it. -/
theorem TagLine.parse?_of_parts {line word rest : Text} {role : TagRole} {typed : TypePart}
    {named : NamePart} (hline : line.strip = '@' :: (word ++ rest))
    (hword : word.all isAlphanumeric = true)
    (hrest : rest.head?.any isAlphanumeric = false) (hrole : tagRole? word = some role)
    (htyped : readType rest.trimStart = typed)
    (hnamed : readName role typed.type typed.rest = named) :
    TagLine.parse? line =
      some { role
             raw := line
             type := typed.type
             name := named.name
             optional := named.optional
             default := named.default
             description := named.rest.strip
             malformed :=
               typed.broken || named.broken || (role == .param && named.name.isNone) } := by
  rw [TagLine.parse?_of_word hline hword hrest, hrole, htyped]
  simp only [Option.map_some, hnamed]

/-- The type of a tag line is balanced, or else has been cut at a blank. -/
theorem TagLine.type_balanced_or {line : Text} {tag : TagLine}
    (htag : TagLine.parse? line = some tag) {type : Text} (htype : tag.type = some type) :
    type.Balanced '{' '}' ∨ ∀ c ∈ type, isBlank c = false := by
  unfold TagLine.parse? at htag
  split at htag
  · obtain ⟨role, -, rfl⟩ := Option.map_eq_some_iff.mp htag
    exact readType_balanced_or htype
  · cases htag

/-- A type between braces is passed over if it is balanced, or if it has no
blank and nothing on the line closes it. -/
theorem readType_rest {type more : Text}
    (h : type.Balanced '{' '}' ∨ (∀ c ∈ type, isBlank c = false) ∧
      Text.StaysOpen '{' '}' 0 (type ++ '}' :: ' ' :: more)) :
    (readType ('{' :: (type ++ '}' :: ' ' :: more))).rest = more.trimStart := by
  have hspace : Text.trimStart (' ' :: more) = more.trimStart := rfl
  simp only [readType, readClause]
  rcases h with hbalanced | ⟨hsolid, hopen⟩
  · rw [closing?_of_balanced (by decide) hbalanced]
    exact hspace
  · have hrun : ∀ c ∈ type ++ ['}'], (!isBlank c) = true := by
      intro c hc
      rcases List.mem_append.mp hc with htype | hcloser
      · simp [hsolid c htype]
      · rw [List.mem_singleton.mp hcloser]
        rfl
    have hblank : ∀ c ∈ (' ' :: more).head?, (!isBlank c) = false := by
      rintro c ⟨rfl⟩
      rfl
    have hstop := takeWhile_append_of_stop hrun hblank
    rw [List.append_assoc] at hstop
    rw [(closing?_eq_none_iff (by decide)).mpr hopen]
    exact (congrArg Text.trimStart hstop.2).trans hspace

/-- A name is read up to the first character that cannot stand in one. -/
theorem readIdent_append {name more : Text} (hname : name.IsIdentifier)
    (hmore : ∀ c ∈ more.head?, isIdentChar c = false) :
    readIdent (name ++ more) = { name := some name, rest := more } := by
  obtain ⟨htake, hdrop⟩ := takeWhile_append_of_stop hname.chars hmore
  rw [readIdent, htake, hdrop, (Text.given?_eq_some_iff name name).mpr ⟨rfl, hname.ne_nil⟩]

theorem readParamName_ident {name more : Text} (hname : name.IsIdentifier)
    (hmore : ∀ c ∈ more.head?, isIdentChar c = false) :
    readParamName (name ++ more) = { name := some name, rest := more } := by
  have hident : readParamName (name ++ more) = readIdent (name ++ more) := by
    unfold readParamName
    split
    · rename_i rest heq
      cases name with
      | nil => exact absurd rfl hname.ne_nil
      | cons c later =>
          obtain ⟨rfl, -⟩ := List.cons.inj heq
          exact absurd List.mem_cons_self (hname.notMem (by decide))
    · rfl
  rw [hident, readIdent_append hname hmore]

theorem balanced_of_isIdentifier {name : Text} (hname : name.IsIdentifier) :
    name.Balanced '[' ']' :=
  Text.balanced_of_free (hname.notMem (by decide)) (hname.notMem (by decide))

/-- The name in a bracket clause stands before the first equals sign, if there
is one. -/
theorem readParamName_of_inner {name more tail : Text} (hname : name.IsIdentifier)
    (hinner : (readClause '[' ']' more).inner = name ++ tail)
    (htail : ∀ c ∈ tail.head?, c = '=') :
    (readParamName ('[' :: more)).name = some name := by
  have hbefore : ∀ c ∈ name, (c != '=') = true := by
    intro c hc
    rw [bne_iff_ne]
    rintro rfl
    exact hname.notMem (by decide) hc
  have hafter : ∀ c ∈ tail.head?, (c != '=') = false := by
    intro c hc
    rw [htail c hc]
    rfl
  simp only [readParamName, hinner]
  rw [(takeWhile_append_of_stop hbefore hafter).1, Text.strip_of_trimmed hname.trimmed]
  exact (Text.given?_eq_some_iff name name).mpr ⟨rfl, hname.ne_nil⟩

theorem readParamName_bracket {name : Text} (hname : name.IsIdentifier) (more : Text) :
    (readParamName ('[' :: (name ++ ']' :: more))).name = some name := by
  have hinner : (readClause '[' ']' (name ++ ']' :: more)).inner = name ++ [] := by
    unfold readClause
    rw [closing?_of_balanced (by decide) (balanced_of_isIdentifier hname), List.append_nil]
  exact readParamName_of_inner hname hinner nofun

theorem readParamName_default {name : Text} (hname : name.IsIdentifier) (more : Text) :
    (readParamName ('[' :: (name ++ '=' :: more))).name = some name := by
  have hbalanced := balanced_of_isIdentifier hname
  obtain ⟨inner, hinner⟩ : ∃ inner, (readClause '[' ']' (name ++ '=' :: more)).inner =
      name ++ '=' :: inner := by
    unfold readClause
    rw [closing?_append (by decide) hbalanced.staysOpen, hbalanced.count_eq,
      Nat.add_sub_cancel, closing?_other (by decide) (by decide)]
    cases closing? '[' ']' 0 more with
    | some clause => exact ⟨clause.1, rfl⟩
    | none =>
        have hsolid : ∀ c ∈ name, (!isBlank c) = true := by
          intro c hc
          rw [isBlank_of_isIdentChar (hname.chars c hc)]
          rfl
        refine ⟨more.takeWhile (!isBlank ·), ?_⟩
        exact (List.takeWhile_append_of_pos hsolid).trans rfl
  apply readParamName_of_inner hname hinner
  rintro c ⟨rfl⟩
  rfl

/-- A description is put behind the head of a line as it is put behind nothing. -/
theorem withDescription_eq_append (head description : Text) :
    withDescription head description = head ++ withDescription [] description := by
  unfold withDescription
  cases formatDescription description with
  | nil => rw [List.append_nil]
  | cons c rest => rfl

theorem head?_withDescription_nil (description : Text) :
    ∀ c ∈ (withDescription [] description).head?, c = ' ' := by
  intro c hc
  unfold withDescription at hc
  cases hshown : formatDescription description with
  | nil =>
      rw [hshown] at hc
      cases hc
  | cons d rest =>
      rw [hshown] at hc
      exact (Option.some.inj hc).symm

theorem endsSolid_formatDescription (description : Text) :
    (formatDescription description).EndsSolid := by
  have hdash : ∀ {t : Text}, t ≠ [] → t.EndsSolid → Text.EndsSolid ('-' :: ' ' :: t) := by
    intro t hne ht c hc
    obtain ⟨d, rest, rfl⟩ := List.exists_cons_of_ne_nil hne
    exact ht c hc
  have hstrip := description.trimmed_strip.ends
  unfold formatDescription
  split
  · exact nofun
  · rename_i rest hdescription
    rwa [hdescription] at hstrip
  · rename_i rest _
    split
    · exact nofun
    · rename_i hne
      exact hdash hne (Text.trimmed_strip rest).ends
  · rename_i hne _ _
    exact hdash hne hstrip

theorem endsSolid_withDescription {head : Text} (hhead : head.EndsSolid) (description : Text) :
    (withDescription head description).EndsSolid := by
  have hshown := endsSolid_formatDescription description
  unfold withDescription
  cases hcases : formatDescription description with
  | nil => exact hhead
  | cons c rest =>
      rw [hcases] at hshown
      apply hhead.append
      exact hshown

end DocWeave
