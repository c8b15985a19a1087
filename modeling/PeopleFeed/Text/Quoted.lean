import PeopleFeed.Text.Hexadecimal
import PeopleFeed.Text.Printable

/-! Texts between quotes, as messages show them: what cannot be shown as it is gets escaped. -/
namespace PeopleFeed.Text

/-- A double quote is used only around a text that holds a single quote and no double quote. -/
def quoteMark (cs : List Char) : Char :=
  if cs.contains '\'' && !cs.contains '"' then '"' else '\''

/-- One character between the given quotes. -/
def escapeQuoted (mark c : Char) : List Char :=
  if c == mark || c == '\\' then ['\\', c]
  else if c == '\n' then ['\\', 'n']
  else if c == '\r' then ['\\', 'r']
  else if c == '\t' then ['\\', 't']
  else if isPrintable c then [c]
  else if c.toNat < 0x100 then '\\' :: 'x' :: hexadecimal 2 c.toNat
  else if c.toNat < 0x10000 then '\\' :: 'u' :: hexadecimal 4 c.toNat
  else '\\' :: 'U' :: hexadecimal 8 c.toNat

/-- A text between quotes. -/
def quoted (s : String) : String :=
  let cs := s.toList
  let mark := quoteMark cs
  String.ofList (mark :: cs.flatMap (escapeQuoted mark) ++ [mark])

end PeopleFeed.Text
