/-
The anatomy of tag lines.  A line that is read as a tag line is an at sign, a
tag word, a type, a name and a description, one after another with nothing but
blanks between them, and each part ends where the line itself says so.  A line
put together like this is read as just these parts, so that the reading neither
loses nor makes up anything.
-/
import DocWeave.Proofs.Tag.Reading

namespace DocWeave

/-- A run of characters of one sort, with no such character right behind it. -/
structure IsRun (p : Char → Bool) (run rest : Text) : Prop where
  all : ∀ c ∈ run, p c = true
  ends : ∀ c ∈ rest.head?, p c = false

theorem isRun_takeWhile (p : Char → Bool) (t : Text) :
    IsRun p (t.takeWhile p) (t.dropWhile p) where
  all := fun c hc => List.mem_takeWhile_imp hc
  ends := by
    intro c hc
    have hhead := List.head?_dropWhile_not p t
    rw [Option.mem_def.mp hc] at hhead
    exact hhead

theorem IsRun.takeWhile_eq {p : Char → Bool} {run rest : Text} (h : IsRun p run rest) :
    (run ++ rest).takeWhile p = run :=
  (takeWhile_append_of_stop h.all h.ends).1

theorem IsRun.dropWhile_eq {p : Char → Bool} {run rest : Text} (h : IsRun p run rest) :
    (run ++ rest).dropWhile p = rest :=
  (takeWhile_append_of_stop h.all h.ends).2

theorem IsRun.any_head? {p : Char → Bool} {run rest : Text} (h : IsRun p run rest) :
    rest.head?.any p = false := by
  rcases hhead : rest.head? with _ | c
  · rfl
  · exact h.ends c hhead

/-- A clause where it stands in a text.  It is closed behind a balanced inside;
where no stretch from its opener on has as many openers as closers, nothing
closes it, and it runs up to the next blank. -/
inductive SpellsClause (opener closer : Char) : Text → Clause → Prop
  | closed {inner : Text} (hinner : inner.Balanced opener closer) (rest : Text) :
      SpellsClause opener closer (opener :: (inner ++ [closer])) ⟨inner, rest, false⟩
  | cut {inner rest : Text} (hrun : IsRun (!isBlank ·) inner rest)
      (huneven : ∀ stretch, stretch <+: opener :: (inner ++ rest) → stretch ≠ [] →
        stretch.count opener ≠ stretch.count closer) :
      SpellsClause opener closer (opener :: inner) ⟨inner, rest, true⟩

/-- A clause that is read stands at the front of the text. -/
theorem spellsClause_readClause {opener closer : Char} (hne : opener ≠ closer) (t : Text) :
    ∃ written, opener :: t = written ++ (readClause opener closer t).rest ∧
      SpellsClause opener closer written (readClause opener closer t) := by
  rcases hclosing : closing? opener closer 0 t with _ | clause
  · have hread : readClause opener closer t =
        ⟨t.takeWhile (!isBlank ·), t.dropWhile (!isBlank ·), true⟩ := by
      rw [readClause, hclosing]
    have htext := List.takeWhile_append_dropWhile (p := (!isBlank ·)) (l := t)
    have huneven := (closing?_eq_none_iff_uneven hne).mp hclosing
    rw [hread]
    refine ⟨opener :: t.takeWhile (!isBlank ·), congrArg (opener :: ·) htext.symm, ?_⟩
    exact .cut (isRun_takeWhile _ t) (by rwa [htext])
  · have hread : readClause opener closer t = ⟨clause.1, clause.2, false⟩ := by
      rw [readClause, hclosing]
    obtain ⟨htext, hopen, hcount⟩ := closing?_sound hne hclosing
    rw [hread]
    refine ⟨opener :: (clause.1 ++ [closer]), by simp [htext], ?_⟩
    exact .closed ⟨hopen, by rw [hcount, Nat.zero_add]⟩ clause.2

/-- A clause at the front of a text is read as it stands there. -/
theorem SpellsClause.readClause_eq {opener closer : Char} (hne : opener ≠ closer)
    {written : Text} {clause : Clause} (h : SpellsClause opener closer written clause) :
    ∃ t, written ++ clause.rest = opener :: t ∧ readClause opener closer t = clause := by
  cases h with
  | @closed inner hinner rest =>
      refine ⟨inner ++ closer :: rest, by simp, ?_⟩
      rw [readClause, closing?_of_balanced hne hinner]
  | @cut inner rest hrun huneven =>
      refine ⟨inner ++ rest, rfl, ?_⟩
      rw [readClause, (closing?_eq_none_iff_uneven hne).mpr huneven]
      simp only [hrun.takeWhile_eq, hrun.dropWhile_eq]

/-- The type of a tag line where it stands, whether its clause is broken, and
what follows. -/
inductive SpellsType : Text → Option Text → Bool → Text → Prop
  | missing {rest : Text} (hrest : rest.head? ≠ some '{') : SpellsType [] none false rest
  | clause {written : Text} {clause : Clause} (hclause : SpellsClause '{' '}' written clause) :
      SpellsType written clause.inner.strip.given? clause.broken clause.rest

theorem readType_of_head? {t : Text} (h : t.head? ≠ some '{') : readType t = ⟨none, t, false⟩ := by
  unfold readType
  split
  · exact absurd rfl h
  · rfl

/-- A type that is read stands at the front of the text. -/
theorem spellsType_readType {t : Text} (ht : t.StartsSolid) :
    ∃ written rest, t = written ++ rest ∧
      SpellsType written (readType t).type (readType t).broken rest ∧
      (readType t).rest = rest.trimStart := by
  by_cases hbrace : t.head? = some '{'
  · obtain ⟨later, rfl⟩ := List.head?_eq_some_iff.mp hbrace
    obtain ⟨written, htext, hclause⟩ := @spellsClause_readClause '{' '}' (by decide) later
    exact ⟨written, _, htext, .clause hclause, rfl⟩
  · rw [readType_of_head? hbrace]
    exact ⟨[], t, rfl, .missing hbrace, (Text.trimStart_of_startsSolid ht).symm⟩

/-- A type at the front of a text is read as it stands there. -/
theorem SpellsType.readType_eq {written rest : Text} {type : Option Text} {broken : Bool}
    (h : SpellsType written type broken rest) (hsolid : Text.StartsSolid (written ++ rest)) :
    readType (written ++ rest) = ⟨type, rest.trimStart, broken⟩ := by
  cases h with
  | missing hrest =>
      rw [List.nil_append] at hsolid ⊢
      rw [readType_of_head? hrest, Text.trimStart_of_startsSolid hsolid]
  | clause hclause =>
      obtain ⟨t, htext, hread⟩ := hclause.readClause_eq (by decide)
      rw [htext, readType, hread]

/-- The inside of a bracket clause: a name, and a default behind the first equals
sign if there is one. -/
inductive NamesOptional : Text → Option Text → Option Text → Prop
  | bare {inner : Text} (hequals : '=' ∉ inner) : NamesOptional inner inner.strip.given? none
  | valued {before : Text} (hequals : '=' ∉ before) (value : Text) :
      NamesOptional (before ++ '=' :: value) before.strip.given? (some value.strip)

theorem isRun_of_equals_notMem {before : Text} (hequals : '=' ∉ before) (rest : Text)
    (hrest : ∀ c ∈ rest.head?, c = '=') : IsRun (· != '=') before rest where
  all := by
    intro c hc
    rw [bne_iff_ne]
    rintro rfl
    exact hequals hc
  ends := by
    intro c hc
    rw [hrest c hc]
    rfl

theorem namesOptional_iff (inner : Text) (name default : Option Text) :
    NamesOptional inner name default ↔
      name = Text.given? (Text.strip (inner.takeWhile (· != '='))) ∧
        default = clauseDefault? inner := by
  constructor
  · intro h
    cases h with
    | bare hequals =>
        have hrun := isRun_of_equals_notMem hequals [] (by simp)
        have htake := hrun.takeWhile_eq
        have hdrop := hrun.dropWhile_eq
        rw [List.append_nil] at htake hdrop
        rw [htake, clauseDefault?, hdrop]
        exact ⟨rfl, rfl⟩
    | @valued before hequals value =>
        have hrun := isRun_of_equals_notMem hequals ('=' :: value) (by simp)
        rw [hrun.takeWhile_eq, clauseDefault?, hrun.dropWhile_eq]
        exact ⟨rfl, rfl⟩
  · rintro ⟨rfl, rfl⟩
    have htext := List.takeWhile_append_dropWhile (p := (· != '=')) (l := inner)
    have hrun := isRun_takeWhile (· != '=') inner
    have hequals : '=' ∉ inner.takeWhile (· != '=') := fun hmem => by
      simpa using hrun.all '=' hmem
    rcases hdrop : inner.dropWhile (· != '=') with _ | ⟨c, value⟩
    · rw [hdrop, List.append_nil] at htext
      rw [htext] at hequals ⊢
      rw [clauseDefault?, hdrop]
      exact .bare hequals
    · have hc : c = '=' := by
        have hends := hrun.ends c (by rw [hdrop]; rfl)
        simpa using hends
      subst hc
      rw [clauseDefault?, hdrop]
      rw [hdrop] at htext
      nth_rewrite 1 [← htext]
      exact .valued hequals value

/-- The name of a tag line where it stands.  A parameter is named by an
identifier or in brackets.  A parent is named by an identifier unless the type
names it, and a return value has no name. -/
inductive SpellsName : TagRole → Option Text → Text → NamePart → Prop
  | ident {type : Option Text} {run rest : Text} (hrun : IsRun isIdentChar run rest)
      (hbracket : (run ++ rest).head? ≠ some '[') :
      SpellsName .param type run { name := run.given?, rest }
  | optional {type name default : Option Text} {written : Text} {clause : Clause}
      (hclause : SpellsClause '[' ']' written clause)
      (hname : NamesOptional clause.inner name default) :
      SpellsName .param type written
        { name, default, optional := true, rest := clause.rest, broken := clause.broken }
  | returns {type : Option Text} {rest : Text} :
      SpellsName .returns type [] { name := none, rest }
  | typedParent {parent rest : Text} :
      SpellsName .parent (some parent) [] { name := some parent, rest }
  | parent {run rest : Text} (hrun : IsRun isIdentChar run rest) :
      SpellsName .parent none run { name := run.given?, rest }

theorem readParamName_of_head? {t : Text} (h : t.head? ≠ some '[') :
    readParamName t = readIdent t := by
  unfold readParamName
  split
  · exact absurd rfl h
  · rfl

/-- A name that is read stands at the front of the text. -/
theorem spellsName_readName (role : TagRole) (type : Option Text) (t : Text) :
    ∃ written, t = written ++ (readName role type t).rest ∧
      SpellsName role type written (readName role type t) := by
  have htext : t = t.takeWhile isIdentChar ++ t.dropWhile isIdentChar :=
    List.takeWhile_append_dropWhile.symm
  match role, type with
  | .param, type =>
      by_cases hbracket : t.head? = some '['
      · obtain ⟨later, rfl⟩ := List.head?_eq_some_iff.mp hbracket
        obtain ⟨written, hwritten, hclause⟩ := @spellsClause_readClause '[' ']' (by decide) later
        exact ⟨written, hwritten, .optional hclause ((namesOptional_iff _ _ _).mpr ⟨rfl, rfl⟩)⟩
      · rw [readName, readParamName_of_head? hbracket]
        exact ⟨_, htext, .ident (isRun_takeWhile isIdentChar t) (by rwa [← htext])⟩
  | .returns, type => exact ⟨[], rfl, .returns⟩
  | .parent, some parent => exact ⟨[], rfl, .typedParent⟩
  | .parent, none => exact ⟨_, htext, .parent (isRun_takeWhile isIdentChar t)⟩

theorem IsRun.readIdent_eq {run rest : Text} (h : IsRun isIdentChar run rest) :
    readIdent (run ++ rest) = { name := run.given?, rest } := by
  rw [readIdent, h.takeWhile_eq, h.dropWhile_eq]

/-- A name at the front of a text is read as it stands there. -/
theorem SpellsName.readName_eq {role : TagRole} {type : Option Text} {written : Text}
    {named : NamePart} (h : SpellsName role type written named) :
    readName role type (written ++ named.rest) = named := by
  cases h with
  | ident hrun hbracket =>
      rw [readName, readParamName_of_head? hbracket, hrun.readIdent_eq]
  | optional hclause hname =>
      obtain ⟨t, htext, hread⟩ := hclause.readClause_eq (by decide)
      obtain ⟨rfl, rfl⟩ := (namesOptional_iff _ _ _).mp hname
      rw [readName, htext, readParamName, hread]
  | returns => rfl
  | typedParent => rfl
  | parent hrun => rw [readName, hrun.readIdent_eq]

/-- The pieces of a tag line in the order they stand in it, and whether its
clauses are broken. -/
structure TagPieces where
  word : Text
  wordGap : Text
  type : Text
  typeGap : Text
  name : Text
  nameGap : Text
  description : Text
  typeBroken : Bool
  nameBroken : Bool
  deriving DecidableEq, Repr

def TagPieces.behindName (p : TagPieces) : Text :=
  p.nameGap ++ p.description

def TagPieces.behindType (p : TagPieces) : Text :=
  p.typeGap ++ (p.name ++ p.behindName)

def TagPieces.behindWord (p : TagPieces) : Text :=
  p.wordGap ++ (p.type ++ p.behindType)

/-- The pieces put together. -/
def TagPieces.text (p : TagPieces) : Text :=
  '@' :: (p.word ++ p.behindWord)

/-- The pieces make up a tag line that says what `tag` says. -/
structure TagPieces.Spell (p : TagPieces) (tag : TagLine) : Prop where
  word_run : IsRun isAlphanumeric p.word p.behindWord
  word_role : (p.word.lower, tag.role) ∈ tagWords
  wordGap_run : IsRun isBlank p.wordGap (p.type ++ p.behindType)
  type_spelled : SpellsType p.type tag.type p.typeBroken p.behindType
  typeGap_run : IsRun isBlank p.typeGap (p.name ++ p.behindName)
  name_spelled : SpellsName tag.role tag.type p.name
    { name := tag.name
      default := tag.default
      optional := tag.optional
      rest := p.behindName
      broken := p.nameBroken }
  nameGap_run : IsRun isBlank p.nameGap p.description
  description_eq : tag.description = p.description
  malformed_iff : tag.malformed = true ↔
    p.typeBroken = true ∨ p.nameBroken = true ∨ tag.role = .param ∧ tag.name = none

theorem tagRole?_eq_some_iff (word : Text) (role : TagRole) :
    tagRole? word = some role ↔ (word.lower, role) ∈ tagWords := by
  constructor
  · intro h
    obtain ⟨before, after, hwords, -⟩ := List.lookup_eq_some_iff.mp h
    rw [hwords]
    exact List.mem_append_right before List.mem_cons_self
  · intro h
    simp only [tagWords, List.mem_cons, Prod.mk.injEq, List.not_mem_nil, or_false] at h
    rcases h with ⟨hword, rfl⟩ | ⟨hword, rfl⟩ | ⟨hword, rfl⟩ | ⟨hword, rfl⟩ | ⟨hword, rfl⟩ |
      ⟨hword, rfl⟩ | ⟨hword, rfl⟩
    all_goals
      rw [tagRole?, hword]
      rfl

theorem TagPieces.behindName_suffix (p : TagPieces) : p.behindName <:+ p.text := by
  refine ⟨'@' :: (p.word ++ p.wordGap ++ p.type ++ p.typeGap ++ p.name), ?_⟩
  simp [TagPieces.text, TagPieces.behindWord, TagPieces.behindType]

/-- A stripped line has no blanks at its end, so that only the gap in front of
the description goes. -/
theorem TagPieces.strip_behindName {p : TagPieces} {line : Text} (hline : line.strip = p.text) :
    p.behindName.strip = p.behindName.trimStart := by
  have hends : p.text.EndsSolid := hline ▸ (Text.trimmed_strip line).ends
  have hsuffix : p.behindName.trimStart <:+ p.text :=
    (List.dropWhile_suffix isBlank).trans p.behindName_suffix
  rw [Text.strip, Text.trimEnd_of_endsSolid (Text.endsSolid_of_isSuffix hsuffix hends)]

/-- A line made up of pieces is read as what they say. -/
theorem TagPieces.Spell.parse?_eq {p : TagPieces} {tag : TagLine} (h : p.Spell tag)
    (hline : tag.raw.strip = p.text) : TagLine.parse? tag.raw = some tag := by
  have hword : p.word.all isAlphanumeric = true := List.all_eq_true.mpr h.word_run.all
  have htyped : readType p.behindWord.trimStart =
      ⟨tag.type, p.behindType.trimStart, p.typeBroken⟩ := by
    rw [TagPieces.behindWord, Text.trimStart, h.wordGap_run.dropWhile_eq]
    exact h.type_spelled.readType_eq h.wordGap_run.ends
  have hnamed : readName tag.role tag.type p.behindType.trimStart =
      { name := tag.name
        default := tag.default
        optional := tag.optional
        rest := p.behindName
        broken := p.nameBroken } := by
    rw [TagPieces.behindType, Text.trimStart, h.typeGap_run.dropWhile_eq]
    exact h.name_spelled.readName_eq
  have hdescription : p.behindName.strip = tag.description := by
    rw [TagPieces.strip_behindName hline, TagPieces.behindName, Text.trimStart,
      h.nameGap_run.dropWhile_eq, h.description_eq]
  have hmalformed : (p.typeBroken || p.nameBroken ||
      (tag.role == .param && tag.name.isNone)) = tag.malformed := by
    rw [Bool.eq_iff_iff, h.malformed_iff]
    simp [or_assoc]
  rw [TagLine.parse?_of_parts hline hword h.word_run.any_head?
    ((tagRole?_eq_some_iff _ _).mpr h.word_role) htyped hnamed]
  simp only [hdescription, hmalformed]

/-- A line that is read as a tag line is made up of the pieces it is read from. -/
theorem exists_spell_of_parse? {line : Text} {tag : TagLine}
    (htag : TagLine.parse? line = some tag) :
    tag.raw = line ∧ ∃ p : TagPieces, line.strip = p.text ∧ p.Spell tag := by
  unfold TagLine.parse? at htag
  split at htag
  case h_2 => cases htag
  rename_i t hline
  obtain ⟨role, hrole, rfl⟩ := Option.map_eq_some_iff.mp htag
  refine ⟨rfl, ?_⟩
  let rest := t.dropWhile isAlphanumeric
  let typed := readType (Text.trimStart rest)
  let named := readName role typed.type typed.rest
  obtain ⟨type, behindType, htype, htypeSpelled, htypeRest⟩ :=
    spellsType_readType (Text.startsSolid_trimStart rest)
  obtain ⟨name, hname, hnameSpelled⟩ := spellsName_readName role typed.type typed.rest
  let p : TagPieces :=
    { word := t.takeWhile isAlphanumeric
      wordGap := rest.takeWhile isBlank
      type
      typeGap := behindType.takeWhile isBlank
      name
      nameGap := named.rest.takeWhile isBlank
      description := named.rest.trimStart
      typeBroken := typed.broken
      nameBroken := named.broken }
  have hbehindName : p.behindName = named.rest := List.takeWhile_append_dropWhile
  have hbehindType : p.behindType = behindType := by
    rw [TagPieces.behindType, hbehindName, ← hname, htypeRest]
    exact List.takeWhile_append_dropWhile
  have hbehindWord : p.behindWord = rest := by
    rw [TagPieces.behindWord, hbehindType, ← htype]
    exact List.takeWhile_append_dropWhile
  have htext : line.strip = p.text := by
    rw [TagPieces.text, hbehindWord, hline]
    exact congrArg ('@' :: ·) List.takeWhile_append_dropWhile.symm
  refine ⟨p, htext, ?_⟩
  constructor
  case word_run => exact hbehindWord ▸ isRun_takeWhile isAlphanumeric t
  case word_role => exact (tagRole?_eq_some_iff _ _).mp hrole
  case wordGap_run =>
    rw [hbehindType, ← htype]
    exact isRun_takeWhile isBlank rest
  case type_spelled => exact hbehindType ▸ htypeSpelled
  case typeGap_run =>
    rw [hbehindName, ← hname, htypeRest]
    exact isRun_takeWhile isBlank behindType
  case name_spelled => exact hbehindName ▸ hnameSpelled
  case nameGap_run => exact isRun_takeWhile isBlank named.rest
  case description_eq =>
    have hstrip := TagPieces.strip_behindName htext
    rwa [hbehindName] at hstrip
  case malformed_iff => simp [p, typed, named, rest, or_assoc]

/-- A line is read as a tag line exactly when it is made up of pieces that say what
the tag line says, and it is no tag line exactly when it does not start with an at
sign and a tag word. -/
theorem TagLine.parse?_iff_spell (line : Text) :
    (∀ tag, TagLine.parse? line = some tag ↔
      tag.raw = line ∧ ∃ p : TagPieces, line.strip = p.text ∧ p.Spell tag) ∧
    (TagLine.parse? line = none ↔
      ¬ ∃ (word rest : Text) (role : TagRole), line.strip = '@' :: (word ++ rest) ∧
        IsRun isAlphanumeric word rest ∧ (word.lower, role) ∈ tagWords) := by
  constructor
  · intro tag
    constructor
    · exact exists_spell_of_parse?
    · rintro ⟨rfl, p, hline, hspell⟩
      exact hspell.parse?_eq hline
  · constructor
    · rintro hnone ⟨word, rest, role, hline, hrun, hrole⟩
      have hread := TagLine.parse?_of_word hline (List.all_eq_true.mpr hrun.all) hrun.any_head?
      rw [(tagRole?_eq_some_iff word role).mpr hrole, hnone] at hread
      cases hread
    · intro hnot
      rcases hread : TagLine.parse? line with _ | tag
      · rfl
      · obtain ⟨-, p, hline, hspell⟩ := exists_spell_of_parse? hread
        exact absurd ⟨p.word, p.behindWord, tag.role, hline, hspell.word_run, hspell.word_role⟩
          hnot

end DocWeave
