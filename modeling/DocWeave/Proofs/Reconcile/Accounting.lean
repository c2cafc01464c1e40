/-
No line of a comment is lost without a word.  Every line of the body of a
callable's comment stays as text, feeds a parameter or the return value, or is
dropped with a diagnostic of its own.  Which lines stay does not depend on what
the parameters claim, and the diagnostics come in the order of the lines they
are about, those about parameter lines first.
-/
import DocWeave.Proofs.Reconcile.Feeding
import Mathlib.Logic.ExistsUnique

namespace DocWeave

/-- Whether a line stays as text: it is no tag line, or speaks of a parent, or
names a parameter the callable does not have. -/
def keptAsText (parameters : List Parameter) (line : BodyLine) : Bool :=
  match line.tag with
  | none => true
  | some tag =>
      match tag.role with
      | .parent => true
      | .returns => false
      | .param => tag.name.any fun name => !parameters.any (·.name.sameLower name)

/-- Whether a line feeds some parameter. -/
def feedsParameter (parameters : List Parameter) (lines : List PlacedLine)
    (line : PlacedLine) : Bool :=
  (List.range parameters.length).any fun index =>
    feedingLine? parameters lines index == some line

/-- The parameter lines that feed no parameter, in their order. -/
def unclaimedParamLines (parameters : List Parameter) (lines : List PlacedLine) :
    List PlacedLine :=
  lines.filter fun line => line.1.hasRole .param && !feedsParameter parameters lines line

/-- The lines the author is warned about: parameter lines that feed nothing,
then all return lines but the first. -/
def warnedLines (parameters : List Parameter) (lines : List PlacedLine) :
    List PlacedLine :=
  unclaimedParamLines parameters lines ++ (returnLines lines).drop 1

/-- What is to be said about a line that feeds nothing. -/
def BodyLine.warning (parameters : List Parameter) (line : BodyLine) : TagWarning :=
  if line.hasRole .returns then .extraReturn
  else
    match line.tag.bind TagLine.name with
    | none => .malformedParam
    | some name =>
        if parameters.any (·.name.sameLower name) then .duplicateParam name
        else .unknownParam name

def BodyLine.warningCode (parameters : List Parameter) (line : BodyLine) : Text :=
  if line.hasRole .returns then "duplicate-return-tag".toList
  else
    match line.tag.bind TagLine.name with
    | none => "malformed-param-tag".toList
    | some name =>
        if parameters.any (·.name.sameLower name) then "duplicate-param-tag".toList
        else "unknown-param-tag".toList

/-- What becomes of a line. -/
inductive Fate
  | text
  | parameter (index : Nat)
  | returned
  | dropped (warning : TagWarning)
  deriving DecidableEq, Repr

/-- Whether a fate is that of a line among others. -/
def HasFate (parameters : List Parameter) (lines : List PlacedLine) (line : PlacedLine) :
    Fate → Prop
  | .text => keptAsText parameters line.1 = true
  | .parameter index => feedingLine? parameters lines index = some line
  | .returned => (returnLines lines).head? = some line
  | .dropped warning =>
      line ∈ warnedLines parameters lines ∧ line.1.warning parameters = warning ∧
        warning.drops = true

theorem feedsParameter_iff (parameters : List Parameter) (lines : List PlacedLine)
    (line : PlacedLine) :
    feedsParameter parameters lines line = true ↔
      ∃ index, feedingLine? parameters lines index = some line := by
  simp only [feedsParameter, List.any_eq_true, List.mem_range, beq_iff_eq]
  constructor
  · rintro ⟨index, -, h⟩
    exact ⟨index, h⟩
  · rintro ⟨index, h⟩
    obtain ⟨p, hp, -⟩ := Option.bind_eq_some_iff.mp h
    exact ⟨index, (List.getElem?_eq_some_iff.mp hp).1, h⟩

theorem feedsParameter_cons (p : Parameter) (rest : List Parameter)
    (lines : List PlacedLine) (line : PlacedLine) :
    feedsParameter (p :: rest) lines line =
      ((lines.find? fun other => other.1.isParamNamed p.name) == some line ||
        feedsParameter rest (lines.eraseP fun other => other.1.isParamNamed p.name) line) := by
  simp only [feedsParameter, List.length_cons, List.range_succ_eq_map, List.any_cons,
    List.any_map, Function.comp_def, feedingLine?_cons_zero, feedingLine?_cons_succ]

/-- What the parameters leave over, in closed form. -/
theorem claimParams_snd (parameters : List Parameter) {lines : List PlacedLine}
    (hnodup : lines.Nodup) :
    (claimParams parameters (lines.map Prod.fst)).2 =
      (lines.filter fun line => !feedsParameter parameters lines line).map Prod.fst := by
  induction parameters generalizing lines with
  | nil => simp [claimParams, feedsParameter]
  | cons p rest ih =>
      simp only [claimParams, List.eraseP_map, Function.comp_def]
      rw [ih (hnodup.eraseP _)]
      congr 1
      nth_rewrite 2 [eraseP_eq_filter_of_nodup hnodup]
      rw [List.filter_filter]
      congr 1
      funext line
      rw [feedsParameter_cons, Bool.not_or, Bool.and_comm]
      rfl

/-- What a line can be: one that speaks of neither parameter nor return value,
a return line, or a parameter line. -/
theorem BodyLine.shape (parameters : List Parameter) (line : BodyLine) :
    (line.hasRole .param = false ∧ line.hasRole .returns = false ∧
        leftoverWarning? parameters line = none ∧ keptAsText parameters line = true) ∨
      (line.hasRole .param = false ∧ line.hasRole .returns = true ∧
        leftoverWarning? parameters line = none ∧ keptAsText parameters line = false ∧
        line.warning parameters = .extraReturn) ∨
      (line.hasRole .param = true ∧ line.hasRole .returns = false ∧
        leftoverWarning? parameters line = some (line.warning parameters) ∧
        keptAsText parameters line = !(line.warning parameters).drops) := by
  obtain ⟨text, tag⟩ := line
  cases tag with
  | none => exact Or.inl ⟨rfl, rfl, rfl, rfl⟩
  | some tag =>
      obtain ⟨role, raw, type, name, optional, default, description, malformed⟩ := tag
      cases role with
      | parent => exact Or.inl ⟨rfl, rfl, rfl, rfl⟩
      | returns => exact Or.inr (Or.inl ⟨rfl, rfl, rfl, rfl, rfl⟩)
      | param =>
          refine Or.inr (Or.inr ⟨rfl, rfl, ?_⟩)
          cases name with
          | none => exact ⟨rfl, rfl⟩
          | some name =>
              by_cases hknown : (parameters.any fun p => p.name.sameLower name) = true
              · simp [leftoverWarning?, BodyLine.warning, keptAsText, BodyLine.hasRole,
                  TagWarning.drops, hknown]
              · simp [leftoverWarning?, BodyLine.warning, keptAsText, BodyLine.hasRole,
                  TagWarning.drops, hknown]

theorem staysText_eq_keptAsText (parameters : List Parameter) (line : BodyLine) :
    staysText parameters line = keptAsText parameters line := by
  rcases line.shape parameters with ⟨-, hreturns, hwarning, hkept⟩ |
    ⟨-, hreturns, hwarning, hkept, -⟩ | ⟨-, hreturns, hwarning, hkept⟩
  · simp [staysText, hreturns, hwarning, hkept]
  · simp [staysText, hreturns, hkept]
  · simp [staysText, hreturns, hwarning, hkept]

theorem leftoverWarning?_eq (parameters : List Parameter) (line : BodyLine) :
    leftoverWarning? parameters line =
      if line.hasRole .param then some (line.warning parameters) else none := by
  rcases line.shape parameters with ⟨hparam, -, hwarning, -⟩ | ⟨hparam, -, hwarning, -⟩ |
    ⟨hparam, -, hwarning, -⟩
  · simp [hparam, hwarning]
  · simp [hparam, hwarning]
  · simp [hparam, hwarning]

/-- A line that speaks of a parameter or of the return value stays exactly when
the warning about it does not drop it. -/
theorem keptAsText_of_hasRole (parameters : List Parameter) {line : BodyLine}
    (h : line.hasRole .param = true ∨ line.hasRole .returns = true) :
    keptAsText parameters line = !(line.warning parameters).drops := by
  rcases line.shape parameters with ⟨hparam, hreturns, -⟩ | ⟨-, -, -, hkept, hwarning⟩ |
    ⟨-, -, -, hkept⟩
  · simp [hparam, hreturns] at h
  · simp [hkept, hwarning, TagWarning.drops]
  · exact hkept

theorem keptAsText_of_not_hasRole (parameters : List Parameter) {line : BodyLine}
    (hparam : line.hasRole .param = false) (hreturns : line.hasRole .returns = false) :
    keptAsText parameters line = true := by
  rcases line.shape parameters with ⟨-, -, -, hkept⟩ | ⟨-, h, -⟩ | ⟨h, -⟩
  · exact hkept
  · simp [hreturns] at h
  · simp [hparam] at h

/-- A parameter's own lines do not stay as text. -/
theorem keptAsText_of_isParamNamed {parameters : List Parameter} {p : Parameter}
    (hp : p ∈ parameters) {line : BodyLine} (h : line.isParamNamed p.name = true) :
    keptAsText parameters line = false := by
  simp only [BodyLine.isParamNamed, Option.any_eq_true, Bool.and_eq_true, TagLine.names,
    beq_iff_eq] at h
  obtain ⟨tag, htag, hrole, name, hname, hlower⟩ := h
  have hknown : (parameters.any fun q => q.name.sameLower name) = true := by
    refine List.any_eq_true.mpr ⟨p, hp, ?_⟩
    rw [Text.sameLower_iff] at hlower ⊢
    exact hlower.symm
  simp [keptAsText, htag, hrole, hname, hknown]

theorem feedingLine?_isParamNamed {parameters : List Parameter} {lines : List PlacedLine}
    {index : Nat} {line : PlacedLine}
    (h : feedingLine? parameters lines index = some line) :
    ∃ p ∈ parameters, line.1.isParamNamed p.name = true := by
  obtain ⟨p, hp, hline⟩ := Option.bind_eq_some_iff.mp h
  refine ⟨p, List.mem_of_getElem? hp, ?_⟩
  exact (List.mem_filter.mp (List.mem_of_getElem? hline)).2

theorem warnedLines_nodup (parameters : List Parameter) {lines : List PlacedLine}
    (hnodup : lines.Nodup) : (warnedLines parameters lines).Nodup := by
  refine List.Nodup.append (hnodup.filter _) ((hnodup.filter _).sublist
    (List.drop_sublist 1 _)) ?_
  intro line hparam hreturns
  have hrole := (Bool.and_eq_true_iff.mp (List.mem_filter.mp hparam).2).1
  have hrole' := (List.mem_filter.mp (List.mem_of_mem_drop hreturns)).2
  cases BodyLine.hasRole_unique hrole hrole'

theorem hasRole_of_mem_warnedLines {parameters : List Parameter} {lines : List PlacedLine}
    {line : PlacedLine} (h : line ∈ warnedLines parameters lines) :
    line.1.hasRole .param = true ∨ line.1.hasRole .returns = true := by
  rcases List.mem_append.mp h with hparam | hreturns
  · exact Or.inl (Bool.and_eq_true_iff.mp (List.mem_filter.mp hparam).2).1
  · exact Or.inr (List.mem_filter.mp (List.mem_of_mem_drop hreturns)).2

theorem not_feedsParameter_of_mem_warnedLines {parameters : List Parameter}
    {lines : List PlacedLine} {line : PlacedLine} (h : line ∈ warnedLines parameters lines)
    (index : Nat) : feedingLine? parameters lines index ≠ some line := by
  intro hfeeds
  rcases List.mem_append.mp h with hparam | hreturns
  · have hunclaimed := (Bool.and_eq_true_iff.mp (List.mem_filter.mp hparam).2).2
    rw [(feedsParameter_iff parameters lines line).mpr ⟨index, hfeeds⟩] at hunclaimed
    cases hunclaimed
  · obtain ⟨p, -, hnamed⟩ := feedingLine?_isParamNamed hfeeds
    have hrole := (List.mem_filter.mp (List.mem_of_mem_drop hreturns)).2
    rw [BodyLine.hasRole_returns_of_isParamNamed hnamed] at hrole
    cases hrole

theorem head?_returnLines_notMem_drop {lines : List PlacedLine} (hnodup : lines.Nodup)
    {line : PlacedLine} (h : (returnLines lines).head? = some line) :
    line ∉ (returnLines lines).drop 1 := by
  have hreturn := hnodup.filter fun line => line.1.hasRole .returns
  obtain ⟨rest, hrest⟩ := List.head?_eq_some_iff.mp h
  rw [← returnLines, hrest] at hreturn
  rw [hrest]
  exact (List.nodup_cons.mp hreturn).1

/-- A line that feeds something or is dropped does not stay as text. -/
theorem HasFate.keptAsText_eq_false {parameters : List Parameter} {lines : List PlacedLine}
    {line : PlacedLine} {fate : Fate} (h : HasFate parameters lines line fate)
    (hne : fate ≠ .text) : keptAsText parameters line.1 = false := by
  cases fate with
  | text => exact absurd rfl hne
  | parameter index =>
      obtain ⟨p, hp, hnamed⟩ := feedingLine?_isParamNamed h
      exact keptAsText_of_isParamNamed hp hnamed
  | returned =>
      have hrole := (List.mem_filter.mp (List.mem_of_head? h)).2
      rcases line.1.shape parameters with ⟨-, hno, -⟩ | ⟨-, -, -, hkept, -⟩ | ⟨-, hno, -⟩
      · simp [hno] at hrole
      · exact hkept
      · simp [hno] at hrole
  | dropped warning =>
      obtain ⟨hwarned, rfl, hdrops⟩ := h
      rw [keptAsText_of_hasRole parameters (hasRole_of_mem_warnedLines hwarned), hdrops]
      rfl

/-- A line that feeds the return value is a return line, one that feeds a
parameter is not. -/
theorem not_returned_of_feedingLine? {parameters : List Parameter}
    {lines : List PlacedLine} {line : PlacedLine} {index : Nat}
    (h : feedingLine? parameters lines index = some line) :
    (returnLines lines).head? ≠ some line := by
  intro hreturned
  obtain ⟨p, -, hnamed⟩ := feedingLine?_isParamNamed h
  have hrole := (List.mem_filter.mp (List.mem_of_head? hreturned)).2
  rw [BodyLine.hasRole_returns_of_isParamNamed hnamed] at hrole
  cases hrole

theorem not_returned_of_mem_warnedLines {parameters : List Parameter}
    {lines : List PlacedLine} (hnodup : lines.Nodup) {line : PlacedLine}
    (h : line ∈ warnedLines parameters lines) : (returnLines lines).head? ≠ some line := by
  intro hreturned
  have hrole := (List.mem_filter.mp (List.mem_of_head? hreturned)).2
  rcases List.mem_append.mp h with hparam | hreturns
  · have hrole' := (Bool.and_eq_true_iff.mp (List.mem_filter.mp hparam).2).1
    cases BodyLine.hasRole_unique hrole hrole'
  · exact head?_returnLines_notMem_drop hnodup hreturned hreturns

/-- No line has two fates. -/
theorem HasFate.unique {parameters : List Parameter} {lines : List PlacedLine}
    (hnodup : lines.Nodup) {line : PlacedLine} {a b : Fate}
    (ha : HasFate parameters lines line a) (hb : HasFate parameters lines line b) :
    a = b := by
  by_cases hkept : keptAsText parameters line.1 = true
  · by_cases hatext : a = .text
    · by_cases hbtext : b = .text
      · rw [hatext, hbtext]
      · simp [hb.keptAsText_eq_false hbtext] at hkept
    · simp [ha.keptAsText_eq_false hatext] at hkept
  · cases a with
    | text => exact absurd ha hkept
    | parameter i =>
        cases b with
        | text => exact absurd hb hkept
        | parameter j => rw [feedingLine?_injective hnodup ha hb]
        | returned => exact absurd hb (not_returned_of_feedingLine? ha)
        | dropped w => exact absurd ha (not_feedsParameter_of_mem_warnedLines hb.1 i)
    | returned =>
        cases b with
        | text => exact absurd hb hkept
        | parameter j => exact absurd ha (not_returned_of_feedingLine? hb)
        | returned => rfl
        | dropped w => exact absurd ha (not_returned_of_mem_warnedLines hnodup hb.1)
    | dropped w =>
        cases b with
        | text => exact absurd hb hkept
        | parameter j => exact absurd hb (not_feedsParameter_of_mem_warnedLines ha.1 j)
        | returned => exact absurd hb (not_returned_of_mem_warnedLines hnodup ha.1)
        | dropped w' => rw [← ha.2.1, ← hb.2.1]

theorem exists_hasFate (parameters : List Parameter) {lines : List PlacedLine}
    {line : PlacedLine} (hline : line ∈ lines) :
    ∃ fate, HasFate parameters lines line fate := by
  by_cases hkept : keptAsText parameters line.1 = true
  · exact ⟨.text, hkept⟩
  have hdropped (hrole : line.1.hasRole .param = true ∨ line.1.hasRole .returns = true)
      (hwarned : line ∈ warnedLines parameters lines) :
      ∃ fate, HasFate parameters lines line fate := by
    rw [keptAsText_of_hasRole parameters hrole] at hkept
    exact ⟨.dropped (line.1.warning parameters), hwarned, rfl, by simpa using hkept⟩
  by_cases hparam : line.1.hasRole .param = true
  · by_cases hfeeds : feedsParameter parameters lines line = true
    · obtain ⟨index, hindex⟩ := (feedsParameter_iff parameters lines line).mp hfeeds
      exact ⟨.parameter index, hindex⟩
    · refine hdropped (Or.inl hparam) (List.mem_append_left _ ?_)
      exact List.mem_filter.mpr ⟨hline, by simp [hparam, hfeeds]⟩
  · by_cases hreturns : line.1.hasRole .returns = true
    · have hmem : line ∈ returnLines lines := List.mem_filter.mpr ⟨hline, hreturns⟩
      cases hlist : returnLines lines with
      | nil => simp [hlist] at hmem
      | cons first rest =>
          rw [hlist] at hmem
          rcases List.mem_cons.mp hmem with rfl | hrest
          · exact ⟨.returned, by simp [HasFate, hlist]⟩
          · refine hdropped (Or.inr hreturns) (List.mem_append_right _ ?_)
            rw [hlist]
            exact hrest
    · rw [Bool.not_eq_true] at hparam hreturns
      exact absurd (keptAsText_of_not_hasRole parameters hparam hreturns) hkept

theorem BodyLine.code_warning (parameters : List Parameter) (line : BodyLine) :
    (line.warning parameters).code = line.warningCode parameters := by
  unfold BodyLine.warning BodyLine.warningCode
  split
  · rfl
  · split
    · rfl
    · split <;> rfl

theorem documentCallable_get_text (options : Options) (moduleName scope : Option Text)
    (s : Signature) (body : List Text) :
    (documentCallable options moduleName scope s body).block.get .text =
      body.filter fun line => keptAsText s.parameters (BodyLine.read line) := by
  obtain ⟨htext, -, -⟩ := documentCallable_get options moduleName scope s body
  rw [htext, funext (staysText_eq_keptAsText s.parameters),
    claimParams_snd_filter fun p hp line => keptAsText_of_isParamNamed hp,
    List.filter_map, List.map_map]
  exact List.map_id _

/-- The warnings are about the warned lines, one for each. -/
theorem documentCallable_warnings (options : Options) (moduleName scope : Option Text)
    (s : Signature) (body : List Text) :
    (documentCallable options moduleName scope s body).warnings =
      (warnedLines s.parameters (placedLines body)).map fun line =>
        line.1.warning s.parameters := by
  have hleft := claimParams_snd s.parameters (placedLines_nodup body)
  have hreturns := claimParams_snd_filter_returns s.parameters (placedLines body)
  simp only [documentCallable, ← placedLines_map_fst body, warnedLines, List.map_append]
  congr 1
  · rw [hleft, List.filterMap_map, List.filterMap_filter, unclaimedParamLines,
      ← List.filterMap_eq_map, List.filterMap_filter]
    congr 1
    funext line
    simp only [Function.comp_apply, leftoverWarning?_eq]
    by_cases hparam : line.1.hasRole .param = true
    · simp [hparam]
    · simp [hparam]
  · rw [hreturns, ← List.map_drop, List.map_map]
    apply List.map_congr_left
    intro line hline
    have hrole := (List.mem_filter.mp (List.mem_of_mem_drop hline)).2
    simp [BodyLine.warning, hrole]

/-- Every line of a comment has exactly one fate.  The lines that stay are told
by a test that looks at one line alone; the block is written from the lines that
feed a parameter or the return value; the diagnostics added to the sink are one
for each warned line, and without a sink the block is the same. -/
theorem documentCallableInto_accounts_for_lines (options : Options)
    (moduleName scope : Option Text) (s : Signature) (body : List Text) (span : Span)
    (subject : Option Text) (sink : List Diagnostic) :
    let document := documentCallableInto options moduleName scope s body span subject
    let block := (document (some sink)).1
    let lines := placedLines body
    let warned := warnedLines s.parameters lines
    (∀ line ∈ lines, ∃! fate, HasFate s.parameters lines line fate) ∧
      block.get .text =
        body.filter (fun line => keptAsText s.parameters (BodyLine.read line)) ∧
      block.get .param =
        s.parameters.mapIdx (fun index p =>
          paramLine p ((feedingLine? s.parameters lines index).bind fun line => line.1.tag)) ∧
      block.get .returns =
        [returnLine s.returnType ((returnLines lines).head?.bind fun line => line.1.tag)] ∧
      (∃ added, document (some sink) = (block, some (sink ++ added)) ∧
        added = warned.map (fun line =>
          (line.1.warning s.parameters).diagnostic s.name span subject) ∧
        added.map Diagnostic.code =
          warned.map (fun line => some (line.1.warningCode s.parameters))) ∧
      warned.Nodup ∧
      (∀ line ∈ warned,
        keptAsText s.parameters line.1 = !(line.1.warning s.parameters).drops) ∧
      document none = (block, none) := by
  intro document block lines warned
  have hnodup := placedLines_nodup body
  refine ⟨?_, documentCallable_get_text options moduleName scope s body,
    documentCallable_get_param options moduleName scope s body,
    documentCallable_get_returns options moduleName scope s body, ?_,
    warnedLines_nodup s.parameters hnodup, ?_, rfl⟩
  · intro line hline
    obtain ⟨fate, hfate⟩ := exists_hasFate s.parameters hline
    exact ⟨fate, hfate, fun other hother => hother.unique hnodup hfate⟩
  · refine ⟨warned.map fun line =>
      (line.1.warning s.parameters).diagnostic s.name span subject, ?_, rfl, ?_⟩
    · simp only [document, block, documentCallableInto, documentCallable_warnings,
        Option.map_some, List.map_map]
      rfl
    · rw [List.map_map]
      apply List.map_congr_left
      intro line _
      exact congrArg some (line.1.code_warning s.parameters)
  · intro line hline
    exact keptAsText_of_hasRole s.parameters (hasRole_of_mem_warnedLines hline)

end DocWeave
