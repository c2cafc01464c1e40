/-
Which line of a comment each parameter is documented from.  The parameters of
a callable claim lines one after another, and a claim changes what the next
one finds.  The same lines are found without running the claims, by counting
namesakes: of the parameters that share a name, the first is fed by the first
line with that name, the second by the second, and so on.
-/
import DocWeave.Proofs.Reconcile.Entries
import Mathlib.Data.List.Nodup

namespace DocWeave

/-- A line of a comment body with its place in the body, which tells it apart
from other lines that read the same. -/
abbrev PlacedLine := BodyLine × Nat

/-- The lines of a comment body, each read and with its place. -/
def placedLines (body : List Text) : List PlacedLine :=
  (body.map BodyLine.read).zipIdx

/-- The lines that are read as parameter lines of a name, in their order. -/
def linesNaming (lines : List PlacedLine) (name : Text) : List PlacedLine :=
  lines.filter fun line => line.1.isParamNamed name

/-- How many parameters bear a name, in any case. -/
def namesakes (parameters : List Parameter) (name : Text) : Nat :=
  parameters.countP fun p => p.name.sameLower name

/-- The line that feeds the parameter at an index: of the lines that name it,
the one with as many before it as the parameter has namesakes before it. -/
def feedingLine? (parameters : List Parameter) (lines : List PlacedLine) (index : Nat) :
    Option PlacedLine :=
  parameters[index]?.bind fun p =>
    (linesNaming lines p.name)[namesakes (parameters.take index) p.name]?

def returnLines (lines : List PlacedLine) : List PlacedLine :=
  lines.filter fun line => line.1.hasRole .returns

theorem Text.sameLower_iff (t u : Text) : t.sameLower u = true ↔ t.lower = u.lower := by
  simp [Text.sameLower]

/-- A parameter line has one name only, up to case. -/
theorem BodyLine.sameLower_of_isParamNamed {line : BodyLine} {a b : Text}
    (ha : line.isParamNamed a = true) (hb : line.isParamNamed b = true) :
    a.sameLower b = true := by
  simp only [BodyLine.isParamNamed, Option.any_eq_true, Bool.and_eq_true,
    TagLine.names] at ha hb
  obtain ⟨tag, htag, -, name, hname, hlower⟩ := ha
  obtain ⟨tag', htag', -, name', hname', hlower'⟩ := hb
  obtain rfl : tag = tag' := Option.some.inj (htag.symm.trans htag')
  obtain rfl : name = name' := Option.some.inj (hname.symm.trans hname')
  rw [Text.sameLower_iff] at hlower hlower' ⊢
  exact hlower.symm.trans hlower'

/-- Names that differ in case only are named by the same lines. -/
theorem BodyLine.isParamNamed_congr {a b : Text} (h : a.sameLower b = true)
    (line : BodyLine) : line.isParamNamed a = line.isParamNamed b := by
  rw [Text.sameLower_iff] at h
  simp only [BodyLine.isParamNamed, TagLine.names, Text.sameLower, h]

theorem linesNaming_congr {a b : Text} (h : a.sameLower b = true)
    (lines : List PlacedLine) : linesNaming lines a = linesNaming lines b := by
  simp only [linesNaming, BodyLine.isParamNamed_congr h]

/-- Taking the first line of a name away leaves the later ones of that name. -/
theorem linesNaming_eraseP_self (lines : List PlacedLine) (name : Text) :
    linesNaming (lines.eraseP fun line => line.1.isParamNamed name) name =
      (linesNaming lines name).tail := by
  induction lines with
  | nil => rfl
  | cons head rest ih =>
      by_cases h : head.1.isParamNamed name = true
      · simp [linesNaming, h]
      · simpa [linesNaming, h] using ih

/-- Taking an item away changes nothing for a property it does not have. -/
theorem filter_eraseP_of_disjoint {α : Type} {p q : α → Bool}
    (hdisjoint : ∀ a, p a = true → q a = false) (items : List α) :
    (items.eraseP p).filter q = items.filter q := by
  induction items with
  | nil => rfl
  | cons head rest ih =>
      by_cases h : p head = true
      · rw [List.eraseP_cons_of_pos h,
          List.filter_cons_of_neg (by simp [hdisjoint head h])]
      · rw [List.eraseP_cons_of_neg h, List.filter_cons, List.filter_cons, ih]

/-- Taking a line of one name away changes nothing for another name. -/
theorem linesNaming_eraseP_other (lines : List PlacedLine) {name other : Text}
    (hne : ¬ name.sameLower other = true) :
    linesNaming (lines.eraseP fun line => line.1.isParamNamed name) other =
      linesNaming lines other := by
  apply filter_eraseP_of_disjoint
  intro line hname
  have hother : ¬ line.1.isParamNamed other = true := fun hother =>
    hne (BodyLine.sameLower_of_isParamNamed hname hother)
  simpa using hother

theorem feedingLine?_cons_zero (p : Parameter) (rest : List Parameter)
    (lines : List PlacedLine) :
    feedingLine? (p :: rest) lines 0 = lines.find? fun line => line.1.isParamNamed p.name := by
  simp [feedingLine?, namesakes, linesNaming, ← List.head?_eq_getElem?]

/-- The later parameters are fed by what the first one leaves. -/
theorem feedingLine?_cons_succ (p : Parameter) (rest : List Parameter)
    (lines : List PlacedLine) (index : Nat) :
    feedingLine? (p :: rest) lines (index + 1) =
      feedingLine? rest (lines.eraseP fun line => line.1.isParamNamed p.name) index := by
  simp only [feedingLine?, List.getElem?_cons_succ, List.take_succ_cons]
  cases rest[index]? with
  | none => rfl
  | some q =>
      simp only [Option.bind_some, namesakes, List.countP_cons]
      by_cases h : p.name.sameLower q.name = true
      · rw [← linesNaming_congr h, ← linesNaming_congr h, linesNaming_eraseP_self,
          if_pos h, List.getElem?_tail]
      · rw [linesNaming_eraseP_other lines h, if_neg h, Nat.add_zero]

/-- The claims of the parameters in closed form. -/
theorem claimParams_fst (parameters : List Parameter) (lines : List PlacedLine) :
    (claimParams parameters (lines.map Prod.fst)).1 =
      parameters.mapIdx fun index p =>
        paramLine p ((feedingLine? parameters lines index).bind fun line => line.1.tag) := by
  induction parameters generalizing lines with
  | nil => rfl
  | cons p rest ih =>
      simp only [claimParams, List.eraseP_map, List.mapIdx_cons]
      congr 1
      · rw [feedingLine?_cons_zero, List.find?_map]
        simp only [Function.comp_def, Option.bind_map]
      · simp only [feedingLine?_cons_succ]
        exact ih _

/-- Lines that name no parameter are all left over. -/
theorem claimParams_snd_filter {kept : BodyLine → Bool} {parameters : List Parameter}
    (hkept : ∀ p ∈ parameters, ∀ line : BodyLine, line.isParamNamed p.name = true →
      kept line = false) (pool : List BodyLine) :
    (claimParams parameters pool).2.filter kept = pool.filter kept := by
  induction parameters generalizing pool with
  | nil => rfl
  | cons p rest ih =>
      simp only [claimParams]
      rw [ih fun q hq => hkept q (List.mem_cons_of_mem p hq),
        filter_eraseP_of_disjoint (hkept p List.mem_cons_self)]

theorem BodyLine.hasRole_param_of_isParamNamed {line : BodyLine} {name : Text}
    (h : line.isParamNamed name = true) : line.hasRole .param = true := by
  simp only [BodyLine.isParamNamed, Option.any_eq_true, Bool.and_eq_true] at h
  obtain ⟨tag, htag, hrole, -⟩ := h
  simp [BodyLine.hasRole, htag, hrole]

/-- A line has one role only. -/
theorem BodyLine.hasRole_unique {line : BodyLine} {a b : TagRole}
    (ha : line.hasRole a = true) (hb : line.hasRole b = true) : a = b := by
  simp only [BodyLine.hasRole, Option.any_eq_true, beq_iff_eq] at ha hb
  obtain ⟨tag, htag, rfl⟩ := ha
  obtain ⟨tag', htag', rfl⟩ := hb
  obtain rfl : tag = tag' := Option.some.inj (htag.symm.trans htag')
  rfl

theorem BodyLine.hasRole_returns_of_isParamNamed {line : BodyLine} {name : Text}
    (h : line.isParamNamed name = true) : line.hasRole .returns = false := by
  have hparam := BodyLine.hasRole_param_of_isParamNamed h
  rw [Bool.eq_false_iff]
  intro hreturns
  cases BodyLine.hasRole_unique hparam hreturns

/-- No parameter claims a return line. -/
theorem claimParams_snd_filter_returns (parameters : List Parameter)
    (lines : List PlacedLine) :
    (claimParams parameters (lines.map Prod.fst)).2.filter (·.hasRole .returns) =
      (returnLines lines).map Prod.fst := by
  rw [claimParams_snd_filter fun _ _ _ => BodyLine.hasRole_returns_of_isParamNamed,
    List.filter_map]
  rfl

theorem feedingLine?_mem {parameters : List Parameter} {lines : List PlacedLine}
    {index : Nat} {line : PlacedLine}
    (h : feedingLine? parameters lines index = some line) : line ∈ lines := by
  obtain ⟨p, -, hline⟩ := Option.bind_eq_some_iff.mp h
  exact List.mem_of_mem_filter (List.mem_of_getElem? hline)

theorem placedLines_nodup (body : List Text) : (placedLines body).Nodup := by
  apply List.Nodup.of_map Prod.snd
  rw [placedLines, List.zipIdx_map_snd]
  exact List.nodup_range'

/-- Where no line occurs twice, taking the first one of a name away is leaving
that line out. -/
theorem eraseP_eq_filter_of_nodup {lines : List PlacedLine} (hnodup : lines.Nodup)
    (wanted : PlacedLine → Bool) :
    lines.eraseP wanted = lines.filter fun line => lines.find? wanted != some line := by
  induction lines with
  | nil => rfl
  | cons head rest ih =>
      have hhead := List.nodup_cons.mp hnodup
      by_cases h : wanted head = true
      · have hrest : ∀ line ∈ rest, (some head != some line) = true := by
          intro line hline
          simp only [bne_iff_ne, ne_eq, Option.some.injEq]
          rintro rfl
          exact hhead.1 hline
        simp only [List.eraseP_cons_of_pos h, List.find?_cons_of_pos h, List.filter_cons,
          bne_self_eq_false, Bool.false_eq_true, ↓reduceIte]
        exact (List.filter_eq_self.mpr hrest).symm
      · have hkept : (rest.find? wanted != some head) = true := by
          simp only [bne_iff_ne, ne_eq]
          intro hfound
          exact hhead.1 (List.mem_of_find?_eq_some hfound)
        rw [List.eraseP_cons_of_neg h, List.find?_cons_of_neg h, List.filter_cons, if_pos hkept,
          ih hhead.2]

/-- No line feeds two parameters: what feeds the first is gone for the later ones. -/
theorem feedingLine?_injective {parameters : List Parameter} {lines : List PlacedLine}
    (hnodup : lines.Nodup) {i j : Nat} {line : PlacedLine}
    (hi : feedingLine? parameters lines i = some line)
    (hj : feedingLine? parameters lines j = some line) : i = j := by
  induction parameters generalizing lines i j with
  | nil => simp [feedingLine?] at hi
  | cons p rest ih =>
      have hgone : ∀ index, feedingLine? (p :: rest) lines 0 = some line →
          feedingLine? (p :: rest) lines (index + 1) ≠ some line := by
        intro index hzero hsucc
        rw [feedingLine?_cons_zero] at hzero
        rw [feedingLine?_cons_succ, eraseP_eq_filter_of_nodup hnodup] at hsucc
        have hmem := List.mem_filter.mp (feedingLine?_mem hsucc)
        simp [hzero] at hmem
      cases i with
      | zero =>
          cases j with
          | zero => rfl
          | succ j => exact absurd hj (hgone j hi)
      | succ i =>
          cases j with
          | zero => exact absurd hi (hgone i hj)
          | succ j =>
              rw [feedingLine?_cons_succ] at hi hj
              exact congrArg (· + 1) (ih (hnodup.eraseP _) hi hj)

/-- What a callable's block has under each kind that comments feed: the lines
that stay, those the parameters claim, and that of the first return line. -/
theorem documentCallable_get (options : Options) (moduleName scope : Option Text)
    (s : Signature) (body : List Text) :
    let block := (documentCallable options moduleName scope s body).block
    let claims := claimParams s.parameters (body.map BodyLine.read)
    block.get .text = (claims.2.filter (staysText s.parameters)).map BodyLine.text ∧
      block.get .param = claims.1 ∧
      block.get .returns =
        [returnLine s.returnType
          ((claims.2.find? (·.hasRole .returns)).bind BodyLine.tag)] := by
  simp only [documentCallable, DocBlock.get_ofEntries, linesUnder_append,
    linesUnder_map, linesUnder_cons, linesUnder_nil]
  refine ⟨?_, ?_, ?_⟩
  · simp
  · simp
  · simp

theorem placedLines_map_fst (body : List Text) :
    (placedLines body).map Prod.fst = body.map BodyLine.read :=
  List.zipIdx_map_fst 0 (body.map BodyLine.read)

/-- The parameter lines of a block, one for each parameter in the order of
declaration. -/
theorem documentCallable_get_param (options : Options) (moduleName scope : Option Text)
    (s : Signature) (body : List Text) :
    (documentCallable options moduleName scope s body).block.get .param =
      s.parameters.mapIdx (fun index p =>
        paramLine p ((feedingLine? s.parameters (placedLines body) index).bind fun line =>
          line.1.tag)) := by
  obtain ⟨-, hparam, -⟩ := documentCallable_get options moduleName scope s body
  rw [← placedLines_map_fst] at hparam
  exact hparam.trans (claimParams_fst s.parameters (placedLines body))

theorem documentCallable_get_returns (options : Options) (moduleName scope : Option Text)
    (s : Signature) (body : List Text) :
    (documentCallable options moduleName scope s body).block.get .returns =
      [returnLine s.returnType
        ((returnLines (placedLines body)).head?.bind fun line => line.1.tag)] := by
  obtain ⟨-, -, hreturns⟩ := documentCallable_get options moduleName scope s body
  rw [← placedLines_map_fst] at hreturns
  refine hreturns.trans ?_
  rw [← List.head?_filter, claimParams_snd_filter_returns, List.head?_map, Option.bind_map]
  rfl

/-- The block of a callable has one line for each parameter, in the order of
declaration, and one for the return value.  Each is written from the line that
feeds it, and no line feeds two parameters. -/
theorem documentCallableInto_get_param_returns (options : Options)
    (moduleName scope : Option Text) (s : Signature) (body : List Text) (span : Span)
    (subject : Option Text) (sink : Option (List Diagnostic)) :
    let block := (documentCallableInto options moduleName scope s body span subject sink).1
    let lines := placedLines body
    block.get .param =
        s.parameters.mapIdx (fun index p =>
          paramLine p ((feedingLine? s.parameters lines index).bind fun line => line.1.tag)) ∧
      block.get .returns =
        [returnLine s.returnType ((returnLines lines).head?.bind fun line => line.1.tag)] ∧
      ∀ i j line, feedingLine? s.parameters lines i = some line →
        feedingLine? s.parameters lines j = some line → i = j := by
  intro block lines
  refine ⟨documentCallable_get_param options moduleName scope s body,
    documentCallable_get_returns options moduleName scope s body, ?_⟩
  intro i j line hi hj
  exact feedingLine?_injective (placedLines_nodup body) hi hj

/-- Two parameters that differ in case only share the lines with their name. -/
example :
    let parameters : List Parameter :=
      [⟨"a".toList, "t".toList, none⟩, ⟨"A".toList, "u".toList, none⟩]
    let lines := placedLines ["@arg A".toList, "free".toList, "@param a".toList]
    (List.range 3).map (fun index => (feedingLine? parameters lines index).map Prod.snd) =
      [some 0, some 2, none] := by
  decide +kernel

end DocWeave
