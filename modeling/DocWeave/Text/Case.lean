/-
Lower and upper case of whole texts.  Most characters map one by one; the
capital sigma takes its final form at the end of a word, and some characters
become several.
-/
import DocWeave.Text.Basic
import DocWeave.Unicode.CaseContext
import DocWeave.Unicode.CaseMap

namespace DocWeave

/-- Whether the first character that is not looked through is a cased one. -/
def nearestIsCased (t : Text) : Bool :=
  match t.find? (fun c => !isCaseIgnorable c) with
  | some c => isCased c
  | none => false

/-- The lower-case form of a capital sigma between two texts, the one before it
given backwards: the final form after a letter and before none. -/
def lowerSigma (before after : Text) : Char :=
  if nearestIsCased before && !nearestIsCased after then 'ς' else 'σ'

/-- The lower-case form of a character between two texts, the one before it
given backwards. -/
def lowerChar (before : Text) (c : Char) (after : Text) : Text :=
  if c.toNat < 0x80 then [c.toLower]
  else if c == 'Σ' then [lowerSigma before after]
  else if c == 'İ' then ['i', '\u0307']
  else [Char.ofNat (mapCase lowerRuns c.toNat)]

/-- Lowers a text that follows the characters `before`, given backwards. -/
def lowerAfter (before : Text) : Text → Text
  | [] => []
  | c :: rest => lowerChar before c rest ++ lowerAfter (c :: before) rest

def Text.lower (t : Text) : Text :=
  lowerAfter [] t

def upperChar (c : Char) : Text :=
  if c.toNat < 0x80 then [c.toUpper]
  else
    match upperExpansions.lookup c.toNat with
    | some codes => codes.map Char.ofNat
    | none => [Char.ofNat (mapCase upperRuns c.toNat)]

def Text.upper (t : Text) : Text :=
  t.flatMap upperChar

/-- Two texts that differ in case only. -/
def Text.sameLower (t u : Text) : Bool :=
  t.lower == u.lower

end DocWeave
