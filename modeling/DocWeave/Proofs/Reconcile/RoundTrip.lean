/-
Lines that are read back.  A parameter line and a return line are written from
a type, a name, a default and a description; read as tag lines they give these
again, the description in the form it was written in.  Written once more from
what was read they do not change.
-/
import DocWeave.Proofs.Reconcile.OneLineEach

namespace DocWeave

/-- A type that can stand between braces: not empty, without blanks around it,
and with its own braces balanced. -/
structure Text.IsTypeText (t : Text) : Prop where
  ne_nil : t ≠ []
  stripped : t.strip = t
  balanced : t.Balanced '{' '}'

instance (t : Text) : Decidable t.IsTypeText :=
  decidable_of_iff (t ≠ [] ∧ t.strip = t ∧ t.Balanced '{' '}')
    ⟨fun h => ⟨h.1, h.2.1, h.2.2⟩, fun h => ⟨h.ne_nil, h.stripped, h.balanced⟩⟩

/-- A default that can stand between brackets.  It may be empty. -/
structure Text.IsDefaultText (t : Text) : Prop where
  stripped : t.strip = t
  balanced : t.Balanced '[' ']'

instance (t : Text) : Decidable t.IsDefaultText :=
  decidable_of_iff (t.strip = t ∧ t.Balanced '[' ']')
    ⟨fun h => ⟨h.1, h.2⟩, fun h => ⟨h.stripped, h.balanced⟩⟩

theorem readClause_of_balanced {opener closer : Char} (hne : opener ≠ closer) {inner : Text}
    (hinner : inner.Balanced opener closer) (rest : Text) :
    readClause opener closer (inner ++ closer :: rest) = ⟨inner, rest, false⟩ := by
  rw [readClause, closing?_of_balanced hne hinner]

theorem readType_of_isTypeText {type : Text} (htype : type.IsTypeText) (rest : Text) :
    readType ('{' :: (type ++ '}' :: rest)) = ⟨some type, rest.trimStart, false⟩ := by
  have hgiven : type.strip.given? = some type :=
    (Text.given?_eq_some_iff _ _).mpr ⟨htype.stripped, htype.ne_nil⟩
  rw [readType, readClause_of_balanced (by decide) htype.balanced, hgiven]

/-- A clause is split at its first equals sign, which no name contains. -/
theorem splitClause_name {name : Text} (hname : name.IsIdentifier) {tail : Text}
    (htail : ∀ c ∈ tail.head?, c = '=') :
    (name ++ tail).takeWhile (· != '=') = name ∧
      (name ++ tail).dropWhile (· != '=') = tail := by
  apply takeWhile_append_of_stop
  · intro c hc
    rw [bne_iff_ne]
    rintro rfl
    exact hname.notMem (by decide) hc
  · intro c hc
    rw [htail c hc]
    rfl

theorem clauseDefault?_name {name : Text} (hname : name.IsIdentifier) :
    clauseDefault? name = none := by
  have hnone : ∀ c ∈ ([] : Text).head?, c = '=' := by simp
  have hsplit := (splitClause_name hname hnone).2
  rw [List.append_nil] at hsplit
  rw [clauseDefault?, hsplit]

theorem clauseDefault?_default {name value : Text} (hname : name.IsIdentifier)
    (hvalue : value.IsDefaultText) : clauseDefault? (name ++ '=' :: value) = some value := by
  have hequals : ∀ c ∈ ('=' :: value).head?, c = '=' := by simp
  have hsplit := (splitClause_name hname hequals).2
  rw [clauseDefault?, hsplit]
  exact congrArg some hvalue.stripped

theorem readParamName_inBrackets {name tail : Text} (hname : name.IsIdentifier)
    (htail : ∀ c ∈ tail.head?, c = '=') (hbalanced : Text.Balanced '[' ']' (name ++ tail))
    (more : Text) :
    readParamName ('[' :: (name ++ tail ++ ']' :: more)) =
      { name := some name
        default := clauseDefault? (name ++ tail)
        optional := true
        rest := more } := by
  have hgiven : Text.given? name.strip = some name :=
    (Text.given?_eq_some_iff _ _).mpr ⟨Text.strip_of_trimmed hname.trimmed, hname.ne_nil⟩
  rw [readParamName, readClause_of_balanced (by decide) hbalanced]
  simp only [(splitClause_name hname htail).1, hgiven]

theorem balanced_name_default {name value : Text} (hname : name.IsIdentifier)
    (hvalue : value.Balanced '[' ']') : Text.Balanced '[' ']' (name ++ '=' :: value) := by
  have hequals : Text.Balanced '[' ']' ['='] := Text.balanced_of_free (by decide) (by decide)
  exact (balanced_of_isIdentifier hname).append (hequals.append hvalue)

/-- A parameter is read where its line shows it, with its default. -/
theorem readParamName_shown_append {p : Parameter} (hname : p.name.IsIdentifier)
    (hdefault : ∀ value ∈ p.default, value.IsDefaultText) {more : Text}
    (hmore : ∀ c ∈ more.head?, isIdentChar c = false) :
    readParamName (p.shown ++ more) =
      { name := some p.name
        default := p.default.bind Text.given?
        optional := p.default.isSome
        rest := more } := by
  obtain ⟨name, typeName, default⟩ := p
  match default with
  | none => exact readParamName_ident hname hmore
  | some [] =>
      have hbalanced : Text.Balanced '[' ']' (name ++ []) := by
        rw [List.append_nil]
        exact balanced_of_isIdentifier hname
      have hread := readParamName_inBrackets hname (by simp) hbalanced more
      rw [List.append_nil, clauseDefault?_name hname] at hread
      simpa [Parameter.shown] using hread
  | some (c :: rest) =>
      have hvalue : Text.IsDefaultText (c :: rest) := hdefault _ rfl
      have hread := readParamName_inBrackets hname (by simp)
        (balanced_name_default hname hvalue.balanced) more
      rw [clauseDefault?_default hname hvalue] at hread
      simpa [Parameter.shown] using hread

theorem formatDescription_eq_nil_or (t : Text) :
    formatDescription t = [] ∨ ∃ rest, formatDescription t = '-' :: rest := by
  rw [formatDescription]
  split
  · exact Or.inl rfl
  · exact Or.inr ⟨_, rfl⟩
  · split
    · exact Or.inl rfl
    · exact Or.inr ⟨_, rfl⟩
  · exact Or.inr ⟨_, rfl⟩

theorem trimmed_formatDescription (t : Text) : (formatDescription t).Trimmed where
  starts := by
    intro c hc
    rcases formatDescription_eq_nil_or t with hnil | ⟨rest, hdash⟩
    · simp [hnil] at hc
    · simp only [hdash, List.head?_cons, Option.mem_def, Option.some.injEq] at hc
      rw [← hc]
      rfl
  ends := endsSolid_formatDescription t

/-- A description in its written form stays as it is. -/
theorem formatDescription_formatDescription (t : Text) :
    formatDescription (formatDescription t) = formatDescription t := by
  have hstrip := Text.strip_of_trimmed (trimmed_formatDescription t)
  rcases formatDescription_eq_nil_or t with hnil | ⟨rest, hdash⟩
  · rw [hnil]
    rfl
  · rw [hdash] at hstrip ⊢
    rw [formatDescription, hstrip]
    rfl

/-- What stands behind the head of a line is the description in its written form. -/
theorem strip_withDescription_nil (description : Text) :
    Text.strip (withDescription [] description) = formatDescription description := by
  have hstrip := Text.strip_of_trimmed (trimmed_formatDescription description)
  rcases formatDescription_eq_nil_or description with hnil | ⟨rest, hdash⟩
  · rw [withDescription, hnil]
    rfl
  · rw [hdash] at hstrip
    rw [withDescription, hdash]
    exact (Text.strip_cons_of_blank (by decide) _).trans hstrip

/-- What a parameter line says. -/
def Parameter.written (p : Parameter) (tag : Option TagLine) : TagLine :=
  { role := .param
    raw := paramLine p tag
    type := some (shownType p.typeName tag)
    name := some p.name
    optional := p.default.isSome
    default := p.default.bind Text.given?
    description := formatDescription (shownDescription tag)
    malformed := false }

/-- A parameter line is read as what it says. -/
theorem parse?_paramLine_eq {p : Parameter} {tag : Option TagLine}
    (hname : p.name.IsIdentifier) (htype : (shownType p.typeName tag).IsTypeText)
    (hdefault : ∀ value ∈ p.default, value.IsDefaultText) :
    TagLine.parse? (paramLine p tag) = some (p.written tag) := by
  let more := withDescription p.shown (shownDescription tag)
  have hmore : more = p.shown ++ withDescription [] (shownDescription tag) :=
    withDescription_eq_append _ _
  have hstarts : more.StartsSolid := by
    intro c hc
    rw [hmore, List.head?_append_of_ne_nil _ (p.shown_ne_nil hname)] at hc
    exact (p.trimmed_shown hname).starts c hc
  have htyped : readType (Text.trimStart (' ' :: '{' :: (shownType p.typeName tag ++
      '}' :: ' ' :: more))) = ⟨some (shownType p.typeName tag), more, false⟩ := by
    have hrest : Text.trimStart (' ' :: more) = more := Text.trimStart_of_startsSolid hstarts
    exact (readType_of_isTypeText htype _).trans (by rw [hrest])
  have hnamed : readName .param (some (shownType p.typeName tag)) more =
      { name := some p.name
        default := p.default.bind Text.given?
        optional := p.default.isSome
        rest := withDescription [] (shownDescription tag) } := by
    rw [readName, hmore]
    apply readParamName_shown_append hname hdefault
    intro c hc
    rw [head?_withDescription_nil _ c hc]
    rfl
  have hstrip := (Text.strip_of_trimmed (trimmed_paramLine hname tag)).trans (paramLine_eq p tag)
  rw [TagLine.parse?_of_parts hstrip rfl rfl rfl htyped hnamed, strip_withDescription_nil]
  rfl

def writtenReturn (type : Text) (tag : Option TagLine) : TagLine :=
  { role := .returns
    raw := returnLine type tag
    type := some (shownType type tag)
    name := none
    optional := false
    default := none
    description := formatDescription (shownDescription tag)
    malformed := false }

/-- A return line is read as what it says. -/
theorem parse?_returnLine_eq {type : Text} {tag : Option TagLine}
    (htype : (shownType type tag).IsTypeText) :
    TagLine.parse? (returnLine type tag) = some (writtenReturn type tag) := by
  let more := withDescription [] (shownDescription tag)
  have htyped : readType (Text.trimStart (' ' :: '{' :: (shownType type tag ++ '}' :: more))) =
      ⟨some (shownType type tag), more.trimStart, false⟩ := readType_of_isTypeText htype more
  have hnamed : readName .returns (some (shownType type tag)) more.trimStart =
      { name := none, rest := more.trimStart } := rfl
  have hstrip := (Text.strip_of_trimmed (trimmed_returnLine type tag)).trans
    (returnLine_eq type tag)
  have hdescription : Text.strip more.trimStart = formatDescription (shownDescription tag) := by
    rw [Text.strip_trimStart, strip_withDescription_nil]
  rw [TagLine.parse?_of_parts hstrip rfl rfl rfl htyped hnamed, hdescription]
  rfl

/-- Two tags with the same type and the same description, up to the form it is
written in, are written alike. -/
theorem withDescription_formatDescription (head description : Text) :
    withDescription head (formatDescription description) = withDescription head description := by
  rw [withDescription, withDescription, formatDescription_formatDescription]

/-- A tag that has the shown type is shown with it, even if that one is empty: then
the declared one is empty too. -/
theorem shownType_of_type_eq {declared : Text} {tag : Option TagLine} {written : TagLine}
    (h : written.type = some (shownType declared tag)) :
    shownType declared (some written) = shownType declared tag := by
  have hwritten : shownType declared (some written) =
      (shownType declared tag).given?.getD declared := by
    rw [shownType, Option.bind_some, h, Option.bind_some]
  rw [hwritten, shownType]
  cases hshown : (tag.bind TagLine.type).bind Text.given? with
  | none => cases declared with
    | nil | cons => rfl
  | some shown =>
      obtain ⟨type, -, hgiven⟩ := Option.bind_eq_some_iff.mp hshown
      obtain ⟨rfl, hne⟩ := (Text.given?_eq_some_iff type shown).mp hgiven
      rw [Option.getD_some, (Text.given?_eq_some_iff type type).mpr ⟨rfl, hne⟩, Option.getD_some]

theorem paramLine_written (p : Parameter) (tag : Option TagLine) :
    paramLine p (some (p.written tag)) = paramLine p tag := by
  rw [paramLine, shownType_of_type_eq rfl]
  exact withDescription_formatDescription _ _

theorem returnLine_written (type : Text) (tag : Option TagLine) :
    returnLine type (some (writtenReturn type tag)) = returnLine type tag := by
  rw [returnLine, shownType_of_type_eq rfl]
  exact withDescription_formatDescription _ _

/-- Parameter lines and return lines are read as what they say, and writing them
again from what was read changes nothing. -/
theorem written_lines_read_back :
    (∀ (p : Parameter) (tag : Option TagLine), p.name.IsIdentifier →
      (shownType p.typeName tag).IsTypeText →
      (∀ value ∈ p.default, value.IsDefaultText) →
      TagLine.parse? (paramLine p tag) =
          some { role := .param
                 raw := paramLine p tag
                 type := some (shownType p.typeName tag)
                 name := some p.name
                 optional := p.default.isSome
                 default := p.default.bind Text.given?
                 description := formatDescription (shownDescription tag)
                 malformed := false } ∧
        paramLine p (TagLine.parse? (paramLine p tag)) = paramLine p tag) ∧
    ∀ (type : Text) (tag : Option TagLine), (shownType type tag).IsTypeText →
      TagLine.parse? (returnLine type tag) =
          some { role := .returns
                 raw := returnLine type tag
                 type := some (shownType type tag)
                 name := none
                 optional := false
                 default := none
                 description := formatDescription (shownDescription tag)
                 malformed := false } ∧
        returnLine type (TagLine.parse? (returnLine type tag)) = returnLine type tag := by
  constructor
  · intro p tag hname htype hdefault
    have hread := parse?_paramLine_eq hname htype hdefault
    refine ⟨hread, ?_⟩
    rw [hread, paramLine_written]
  · intro type tag htype
    have hread := parse?_returnLine_eq htype
    refine ⟨hread, ?_⟩
    rw [hread, returnLine_written]

namespace RoundTripWitness

/-- A parameter whose default has brackets, an equals sign and a line of its own
in it. -/
def options : Parameter :=
  ⟨"opts".toList, "dynamic".toList, some "\x7bsizes: [1,\n2], on=true\x7d".toList⟩

/-- A tag with nested braces in its type and a comma in front of its
description. -/
def tag : TagLine :=
  { role := .param
    raw := []
    type := some "Object<string, \x7ba: int\x7d>".toList
    name := none
    optional := false
    default := none
    description := " , what to send \x7d]".toList
    malformed := false }

end RoundTripWitness

theorem written_lines_read_back_opts :
    (TagLine.parse? (paramLine RoundTripWitness.options (some RoundTripWitness.tag))).map
        (fun tag => (tag.name, tag.default, tag.description)) =
          some (some "opts".toList, some "\x7bsizes: [1,\n2], on=true\x7d".toList,
            "- what to send \x7d]".toList) ∧
      returnLine "integer".toList (TagLine.parse? (returnLine "integer".toList
          (some RoundTripWitness.tag))) =
        "@return \x7bObject<string, \x7ba: int\x7d>\x7d - what to send \x7d]".toList := by
  obtain ⟨hparam, hreturn⟩ := written_lines_read_back
  have hread := (hparam RoundTripWitness.options (some RoundTripWitness.tag) (by decide +kernel)
    (by decide +kernel) (by decide +kernel)).1
  have hagain := (hreturn "integer".toList (some RoundTripWitness.tag) (by decide +kernel)).2
  exact ⟨congrArg (Option.map _) hread, hagain⟩

end DocWeave
