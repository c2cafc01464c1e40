/-
Texts shown in quotes, for messages.  The quote is chosen so that it does not
have to be escaped where possible, and every character that would not print is
shown by its code.
-/
import DocWeave.Text.Basic
import DocWeave.Unicode.Printable

namespace DocWeave

/-- Hexadecimal digits of a number, filled up with zeros to a width. -/
def hexDigits (width n : Nat) : Text :=
  let digits := Nat.toDigits 16 n
  List.replicate (width - digits.length) '0' ++ digits

/-- The quote around a text: double only if the text has single quotes and no
double ones. -/
def quoteFor (t : Text) : Char :=
  if t.contains '\'' && !t.contains '"' then '"' else '\''

def quoteChar (quote c : Char) : Text :=
  if c == '\\' || c == quote then ['\\', c]
  else if c == '\t' then ['\\', 't']
  else if c == '\n' then ['\\', 'n']
  else if c == '\r' then ['\\', 'r']
  else if isPrintable c then [c]
  else if c.toNat < 0x100 then ['\\', 'x'] ++ hexDigits 2 c.toNat
  else if c.toNat < 0x10000 then ['\\', 'u'] ++ hexDigits 4 c.toNat
  else ['\\', 'U'] ++ hexDigits 8 c.toNat

def Text.quoted (t : Text) : Text :=
  let quote := quoteFor t
  [quote] ++ t.flatMap (quoteChar quote) ++ [quote]

/-- Texts in quotes, listed in brackets. -/
def Text.quotedList (ts : List Text) : Text :=
  "[".toList ++ ", ".toList.intercalate (ts.map Text.quoted) ++ "]".toList

end DocWeave
