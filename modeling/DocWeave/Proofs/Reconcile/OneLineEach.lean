/-
The lines of a callable's block, read back.  Each parameter is named by one
line, whatever the comment says, as long as the type on that line ends where it
was written to end.  A type that was cut out of a clause nobody closed can have
an opener too many; written between braces of its own it then runs on to the
next closer of the line, and may take the name with it.
-/
import DocWeave.Proofs.Reconcile.Accounting
import DocWeave.Proofs.Tag.Reading

namespace DocWeave

/-- The tag a parameter's line is written from, if no other parameter has its
name: that of the first line of the comment that names it. -/
def namingTag? (body : List Text) (name : Text) : Option TagLine :=
  ((body.map BodyLine.read).find? (BodyLine.isParamNamed name)).bind BodyLine.tag

/-- Whether the type on a parameter's line ends where it is written to end: it
is balanced, or nothing on the line closes it. -/
def Parameter.TypeSetApart (p : Parameter) (tag : Option TagLine) : Prop :=
  let type := shownType p.typeName tag
  type.Balanced '{' '}' ∨
    Text.StaysOpen '{' '}' 0
      (type ++ '}' :: ' ' :: withDescription p.shown (shownDescription tag))

instance (p : Parameter) (tag : Option TagLine) : Decidable (p.TypeSetApart tag) :=
  inferInstanceAs (Decidable (_ ∨ _))

/-- The name of a parameter is found where its line shows it. -/
theorem readParamName_shown {p : Parameter} (hname : p.name.IsIdentifier) {more : Text}
    (hmore : ∀ c ∈ more.head?, isIdentChar c = false) :
    (readParamName (p.shown ++ more)).name = some p.name := by
  obtain ⟨name, typeName, default⟩ := p
  cases default with
  | none => exact congrArg NamePart.name (readParamName_ident hname hmore)
  | some value =>
      cases value with
      | nil => simpa [Parameter.shown] using readParamName_bracket hname more
      | cons c rest =>
          simpa [Parameter.shown] using readParamName_default hname (c :: rest ++ ']' :: more)

theorem Parameter.shown_ne_nil {p : Parameter} (hname : p.name.IsIdentifier) :
    p.shown ≠ [] := by
  obtain ⟨name, typeName, default⟩ := p
  cases default with
  | none => exact hname.ne_nil
  | some value => cases value <;> exact List.cons_ne_nil _ _

theorem Parameter.trimmed_shown {p : Parameter} (hname : p.name.IsIdentifier) :
    p.shown.Trimmed := by
  obtain ⟨name, typeName, default⟩ := p
  have hbracketed : ∀ inner : Text, Text.Trimmed ('[' :: inner ++ [']']) := by
    intro inner
    constructor
    · rintro c ⟨rfl⟩
      rfl
    · intro c hc
      rw [List.getLast?_concat] at hc
      obtain rfl := Option.some.inj hc
      rfl
  cases default with
  | none => exact hname.trimmed
  | some value =>
      cases value with
      | nil => exact hbracketed name
      | cons c rest => simpa [Parameter.shown] using hbracketed (name ++ '=' :: c :: rest)

theorem paramLine_eq (p : Parameter) (tag : Option TagLine) :
    paramLine p tag =
      '@' :: ("param".toList ++ ' ' :: '{' :: (shownType p.typeName tag ++
        '}' :: ' ' :: withDescription p.shown (shownDescription tag))) := by
  rw [paramLine, withDescription_eq_append, withDescription_eq_append p.shown]
  simp [inBraces]

theorem trimmed_paramLine {p : Parameter} (hname : p.name.IsIdentifier)
    (tag : Option TagLine) : (paramLine p tag).Trimmed := by
  constructor
  · rw [paramLine_eq]
    rintro c ⟨rfl⟩
    rfl
  · have hshown : Text.EndsSolid ([' '] ++ p.shown) :=
      Text.endsSolid_append_of_ne_nil (p.shown_ne_nil hname) (p.trimmed_shown hname).ends
    apply endsSolid_withDescription
    exact Text.endsSolid_append_of_ne_nil (List.cons_ne_nil ' ' p.shown) hshown

/-- A type on a line is balanced or has no blank, wherever it comes from. -/
theorem shownType_balanced_or {declared : Text} (hdeclared : declared.Balanced '{' '}')
    {tag : Option TagLine} (htag : ∀ read ∈ tag, ∃ line, TagLine.parse? line = some read) :
    (shownType declared tag).Balanced '{' '}' ∨
      ∀ c ∈ shownType declared tag, isBlank c = false := by
  rcases shownType_eq_or declared tag with hshown | ⟨read, hread, htype⟩
  · rw [hshown]
    exact Or.inl hdeclared
  · obtain ⟨line, hline⟩ := htag read hread
    exact TagLine.type_balanced_or hline htype

/-- A line written for a parameter is read as a parameter line with its name. -/
theorem parse?_paramLine {p : Parameter} {tag : Option TagLine} (hname : p.name.IsIdentifier)
    (hdeclared : p.typeName.Balanced '{' '}')
    (htag : ∀ read ∈ tag, ∃ line, TagLine.parse? line = some read)
    (hapart : p.TypeSetApart tag) :
    ∃ read, TagLine.parse? (paramLine p tag) = some read ∧ read.role = .param ∧
      read.name = some p.name := by
  let type := shownType p.typeName tag
  let more := withDescription p.shown (shownDescription tag)
  have hmore : more = p.shown ++ withDescription [] (shownDescription tag) :=
    withDescription_eq_append _ _
  have hstarts : more.StartsSolid := by
    intro c hc
    rw [hmore, List.head?_append_of_ne_nil _ (p.shown_ne_nil hname)] at hc
    exact (p.trimmed_shown hname).starts c hc
  have htyped : (readType ('{' :: (type ++ '}' :: ' ' :: more))).rest = more := by
    rw [readType_rest, Text.trimStart_of_startsSolid hstarts]
    rcases hapart with hbalanced | hopen
    · exact Or.inl hbalanced
    · exact (shownType_balanced_or hdeclared htag).imp id fun hsolid => ⟨hsolid, hopen⟩
  have hnamed : (readParamName more).name = some p.name := by
    rw [hmore]
    apply readParamName_shown hname
    intro c hc
    rw [head?_withDescription_nil _ c hc]
    rfl
  have hstrip := (Text.strip_of_trimmed (trimmed_paramLine hname tag)).trans (paramLine_eq p tag)
  refine ⟨_, TagLine.parse?_of_word hstrip rfl rfl, rfl, ?_⟩
  change (readParamName (readType ('{' :: (type ++ '}' :: ' ' :: more))).rest).name = _
  rw [htyped, hnamed]

theorem returnLine_eq (type : Text) (tag : Option TagLine) :
    returnLine type tag =
      '@' :: ("return".toList ++ ' ' :: '{' :: (shownType type tag ++
        '}' :: withDescription [] (shownDescription tag))) := by
  rw [returnLine, withDescription_eq_append]
  simp [inBraces]

theorem trimmed_returnLine (type : Text) (tag : Option TagLine) :
    (returnLine type tag).Trimmed := by
  constructor
  · rw [returnLine_eq]
    rintro c ⟨rfl⟩
    rfl
  · apply endsSolid_withDescription
    intro c hc
    rw [inBraces, ← List.append_assoc, List.getLast?_concat] at hc
    obtain rfl := Option.some.inj hc
    rfl

/-- The line of the return value is read as a return line. -/
theorem parse?_returnLine (type : Text) (tag : Option TagLine) :
    ∃ read, TagLine.parse? (returnLine type tag) = some read ∧ read.role = .returns := by
  have hstrip := (Text.strip_of_trimmed (trimmed_returnLine type tag)).trans
    (returnLine_eq type tag)
  exact ⟨_, TagLine.parse?_of_word hstrip rfl rfl, rfl⟩

theorem parse?_memberLine? {moduleName scope : Option Text} {line : Text}
    (h : memberLine? moduleName scope = some line) : TagLine.parse? line = none := by
  obtain ⟨name, -, rfl⟩ := Option.map_eq_some_iff.mp h
  have hfront : Text.Trimmed "@memberof module:".toList := by
    constructor
    · rintro c ⟨rfl⟩
      rfl
    · rintro c ⟨rfl⟩
      rfl
  have hline : Text.strip ("@memberof module:".toList ++ name) =
      '@' :: ("memberof".toList ++ (" module:".toList ++ name.trimEnd)) :=
    Text.strip_append_of_trimmed (by decide) hfront name
  rw [TagLine.parse?_of_word hline rfl rfl]
  rfl

/-- The lines that a declaration has apart from its parameters and its return
value. -/
def markEntries (options : Options) (moduleName scope : Option Text) (s : Signature) :
    List (TagKind × Text) :=
  accessEntries options s.name s.visibility ++ memberEntries moduleName scope ++
    roleEntries options s

/-- They are fixed marks, and the line of what the declaration belongs to. -/
theorem mark_of_mem_markEntries {options : Options} {moduleName scope : Option Text}
    {s : Signature} {entry : TagKind × Text}
    (hentry : entry ∈ markEntries options moduleName scope s) :
    entry.2 ∈ ["@access private".toList, "@override".toList, "@constructor".toList] ∨
      memberLine? moduleName scope = some entry.2 := by
  simp only [markEntries, List.mem_append] at hentry
  rcases hentry with (haccess | hmember) | hrole
  · unfold accessEntries at haccess
    split at haccess
    · obtain rfl := List.mem_singleton.mp haccess
      exact Or.inl (by decide)
    · cases haccess
  · simp only [memberEntries, Option.mem_toList, Option.map_eq_some_iff] at hmember
    obtain ⟨line, hline, rfl⟩ := hmember
    exact Or.inr hline
  · unfold roleEntries at hrole
    split at hrole
    · cases hrole
    · rcases List.mem_append.mp hrole with hoverride | hconstructor
      · split at hoverride
        · obtain rfl := List.mem_singleton.mp hoverride
          exact Or.inl (by decide)
        · cases hoverride
      · split at hconstructor
        · obtain rfl := List.mem_singleton.mp hconstructor
          exact Or.inl (by decide)
        · cases hconstructor

/-- None of them is a tag line. -/
theorem parse?_markEntries {options : Options} {moduleName scope : Option Text} {s : Signature}
    {entry : TagKind × Text} (hentry : entry ∈ markEntries options moduleName scope s) :
    TagLine.parse? entry.2 = none := by
  have hfixed : ∀ mark ∈ ["@access private".toList, "@override".toList, "@constructor".toList],
      TagLine.parse? mark = none := by
    simp only [List.forall_mem_cons]
    exact ⟨rfl, rfl, rfl, nofun⟩
  rcases mark_of_mem_markEntries hentry with hmark | hmember
  · exact hfixed entry.2 hmark
  · exact parse?_memberLine? hmember

/-- All lines of a callable's block, by where they come from. -/
theorem documentCallable_lines_perm (options : Options) (moduleName scope : Option Text)
    (s : Signature) (body : List Text) :
    (documentCallable options moduleName scope s body).block.lines.Perm
      ((documentCallable options moduleName scope s body).block.get .text ++
        (documentCallable options moduleName scope s body).block.get .param ++
        (documentCallable options moduleName scope s body).block.get .returns ++
        (markEntries options moduleName scope s).map Prod.snd) := by
  obtain ⟨htext, hparam, hreturns⟩ := documentCallable_get options moduleName scope s body
  rw [htext, hparam, hreturns]
  refine ((entries_ofEntries_perm _).map Prod.snd).trans ?_
  simp only [markEntries, List.map_append, List.map_map, List.append_assoc, Function.comp_def,
    List.map_id_fun']
  exact .append_left _ (.append_left _ (List.perm_append_comm_assoc _ _ _))

/-- Where no two parameters share a name, each is documented by the first line
that names it. -/
theorem claimParams_fst_of_distinct {parameters : List Parameter}
    (hdistinct : (parameters.map fun p => p.name.lower).Nodup) (pool : List BodyLine) :
    (claimParams parameters pool).1 =
      parameters.map fun p =>
        paramLine p ((pool.find? (BodyLine.isParamNamed p.name)).bind BodyLine.tag) := by
  induction parameters generalizing pool with
  | nil => rfl
  | cons p rest ih =>
      obtain ⟨hp, hrest⟩ := List.nodup_cons.mp hdistinct
      simp only [claimParams, List.map_cons]
      rw [ih hrest]
      congr 1
      apply List.map_congr_left
      intro q hq
      have hother : ∀ line : BodyLine, line.isParamNamed p.name = true →
          line.isParamNamed q.name = false := by
        intro line hline
        rw [Bool.eq_false_iff]
        intro hboth
        have hsame := BodyLine.sameLower_of_isParamNamed hline hboth
        rw [Text.sameLower_iff] at hsame
        exact hp (List.mem_map.mpr ⟨q, hq, hsame.symm⟩)
      rw [← List.head?_filter, filter_eraseP_of_disjoint hother, List.head?_filter]

/-- The lines that stay as text name no parameter. -/
theorem countP_isParamNamed_keptAsText {parameters : List Parameter} {p : Parameter}
    (hp : p ∈ parameters) (body : List Text) :
    (body.filter fun line => keptAsText parameters (BodyLine.read line)).countP
      (fun line => (BodyLine.read line).isParamNamed p.name) = 0 := by
  rw [List.countP_eq_zero]
  intro line hline hnamed
  have hkept := (List.mem_filter.mp hline).2
  rw [keptAsText_of_isParamNamed hp hnamed] at hkept
  cases hkept

/-- Lines that are no parameter lines name no parameter. -/
theorem countP_isParamNamed_of_hasRole {lines : List Text}
    (hlines : ∀ line ∈ lines, (BodyLine.read line).hasRole .param = false) (name : Text) :
    lines.countP (fun line => (BodyLine.read line).isParamNamed name) = 0 := by
  rw [List.countP_eq_zero]
  intro line hline hnamed
  have hrole := BodyLine.hasRole_param_of_isParamNamed hnamed
  rw [hlines line hline] at hrole
  cases hrole

/-- The tag a parameter's line is written from was read from a line. -/
theorem exists_parse?_of_namingTag? {body : List Text} {name : Text} {tag : TagLine}
    (h : namingTag? body name = some tag) : ∃ line, TagLine.parse? line = some tag := by
  obtain ⟨read, hfind, htag⟩ := Option.bind_eq_some_iff.mp h
  obtain ⟨line, -, rfl⟩ := List.mem_map.mp (List.mem_of_find?_eq_some hfind)
  exact ⟨line, htag⟩

/-- A line written for a parameter names that parameter, up to case. -/
theorem isParamNamed_paramLine {p : Parameter} {tag : Option TagLine}
    (hname : p.name.IsIdentifier) (hdeclared : p.typeName.Balanced '{' '}')
    (htag : ∀ read ∈ tag, ∃ line, TagLine.parse? line = some read)
    (hapart : p.TypeSetApart tag) (name : Text) :
    (BodyLine.read (paramLine p tag)).isParamNamed name = (p.name.lower == name.lower) := by
  obtain ⟨read, hread, hrole, hnamed⟩ := parse?_paramLine hname hdeclared htag hapart
  simp [BodyLine.isParamNamed, BodyLine.read, hread, hrole, TagLine.names, hnamed,
    Text.sameLower]

/-- The lines of the parameters: each parameter is named by its own alone. -/
theorem countP_isParamNamed_claimParams {parameters : List Parameter} {body : List Text}
    (hnames : ∀ p ∈ parameters, p.name.IsIdentifier)
    (hdistinct : (parameters.map fun p => p.name.lower).Nodup)
    (htypes : ∀ p ∈ parameters, p.typeName.Balanced '{' '}')
    (hapart : ∀ p ∈ parameters, p.TypeSetApart (namingTag? body p.name)) {p : Parameter}
    (hp : p ∈ parameters) :
    (claimParams parameters (body.map BodyLine.read)).1.countP
      (fun line => (BodyLine.read line).isParamNamed p.name) = 1 := by
  have hcount : (parameters.map fun q => q.name.lower).count p.name.lower = 1 :=
    List.count_eq_one_of_mem hdistinct (List.mem_map.mpr ⟨p, hp, rfl⟩)
  rw [claimParams_fst_of_distinct hdistinct, List.countP_map]
  rw [List.count, List.countP_map] at hcount
  rw [← hcount]
  apply List.countP_congr
  intro q hq
  have hline := isParamNamed_paramLine (hnames q hq) (htypes q hq)
    (fun read hread => exists_parse?_of_namingTag? hread) (hapart q hq) p.name
  exact iff_of_eq (congrArg (· = true) hline)

/-- Each parameter of a callable is named by exactly one line of its block, for
every comment, if the types on those lines end where they are written to end. -/
theorem documentCallableInto_names_each_once (options : Options)
    (moduleName scope : Option Text) (s : Signature) (body : List Text) (span : Span)
    (subject : Option Text) (sink : Option (List Diagnostic))
    (hnames : ∀ p ∈ s.parameters, p.name.IsIdentifier)
    (hdistinct : (s.parameters.map fun p => p.name.lower).Nodup)
    (htypes : ∀ p ∈ s.parameters, p.typeName.Balanced '{' '}')
    (hapart : ∀ p ∈ s.parameters, p.TypeSetApart (namingTag? body p.name)) :
    ∀ p ∈ s.parameters,
      (documentCallableInto options moduleName scope s body span subject sink).1.lines.countP
        (fun line => (BodyLine.read line).isParamNamed p.name) = 1 := by
  intro p hp
  have hreturned : ∀ line ∈ (documentCallable options moduleName scope s body).block.get .returns,
      (BodyLine.read line).hasRole .param = false := by
    intro line hline
    rw [documentCallable_get_returns] at hline
    obtain rfl := List.mem_singleton.mp hline
    obtain ⟨read, hread, hrole⟩ := parse?_returnLine s.returnType
      ((returnLines (placedLines body)).head?.bind fun line => line.1.tag)
    simp [BodyLine.hasRole, BodyLine.read, hread, hrole]
  have hmarks : ∀ line ∈ (markEntries options moduleName scope s).map Prod.snd,
      (BodyLine.read line).hasRole .param = false := by
    intro line hline
    obtain ⟨entry, hentry, rfl⟩ := List.mem_map.mp hline
    simp [BodyLine.hasRole, BodyLine.read, parse?_markEntries hentry]
  have hlines := documentCallable_lines_perm options moduleName scope s body
  have hcount := hlines.countP_eq fun line => (BodyLine.read line).isParamNamed p.name
  rw [List.countP_append, List.countP_append, List.countP_append,
    countP_isParamNamed_of_hasRole hreturned, countP_isParamNamed_of_hasRole hmarks,
    documentCallable_get_text, countP_isParamNamed_keptAsText hp,
    (documentCallable_get options moduleName scope s body).2.1,
    countP_isParamNamed_claimParams hnames hdistinct htypes hapart hp] at hcount
  exact hcount

namespace OneLineEachWitness

def url : Parameter := ⟨"url".toList, "string".toList, none⟩

def retries : Parameter :=
  ⟨"opt.retries".toList, "\x7bn: integer\x7d".toList, some "[3".toList⟩

def send : Signature := { name := "send".toList, parameters := [url, retries] }

/-- A type that nobody closes, one in nested braces with a closer too many in its
description, and a second line for the first parameter. -/
def body : List Text :=
  ["@param \x7b\x7b url".toList, "Sends.".toList,
    "@arg \x7bmap<\x7bk\x7d>\x7d OPT.Retries, \x7d at most".toList, "@param [url]".toList]

def short : Signature :=
  { name := "f".toList, parameters := [⟨"x".toList, "dynamic".toList, none⟩] }

def spilled : List Text :=
  ["@param \x7b\x7b x \x7d".toList]

end OneLineEachWitness

theorem documentCallableInto_names_each_once_send :
    (documentCallableInto {} none none OneLineEachWitness.send OneLineEachWitness.body {}
        none none).1.lines.countP
          (fun line => (BodyLine.read line).isParamNamed "url".toList) = 1 ∧
      (documentCallableInto {} none none OneLineEachWitness.send OneLineEachWitness.body {}
        none none).1.lines.countP
          (fun line => (BodyLine.read line).isParamNamed "opt.retries".toList) = 1 := by
  have honce := documentCallableInto_names_each_once {} none none OneLineEachWitness.send
    OneLineEachWitness.body {} none none (by decide +kernel) (by decide +kernel)
    (by decide +kernel) (by decide +kernel)
  exact ⟨honce OneLineEachWitness.url List.mem_cons_self,
    honce OneLineEachWitness.retries (List.mem_cons_of_mem _ List.mem_cons_self)⟩

/-- A comment after which no line of the block names the parameter: its type
runs on over the name. -/
theorem documentCallableInto_names_none_spilled :
    (∀ p ∈ OneLineEachWitness.short.parameters,
      p.name.IsIdentifier ∧ p.typeName.Balanced '{' '}') ∧
    (OneLineEachWitness.short.parameters.map fun p => p.name.lower).Nodup ∧
    ∀ p ∈ OneLineEachWitness.short.parameters,
      (documentCallableInto {} none none OneLineEachWitness.short OneLineEachWitness.spilled {}
        none none).1.lines.countP (fun line => (BodyLine.read line).isParamNamed p.name) = 0 := by
  decide +kernel

end DocWeave
