import Flipbook.Text.Digit
import Flipbook.Text.Printable

/-!
# Quoted texts

A text inside a message is shown between quotes, with escapes for the characters that have no
printed form.  Single quotes are used unless the text holds a single quote and no double one.
-/

namespace Flipbook.Text

/-- The quote that needs the fewest escapes. -/
def quoteMark (cs : List Char) : Char :=
  if cs.contains '\'' && !cs.contains '"' then '"' else '\''

/-- A character with no printed form, by the shortest of the three escapes that hold its code
point. -/
def escapeCode (c : Char) : List Char :=
  if c.toNat < 0x100 then '\\' :: 'x' :: hexDigits 2 c.toNat
  else if c.toNat < 0x10000 then '\\' :: 'u' :: hexDigits 4 c.toNat
  else '\\' :: 'U' :: hexDigits 8 c.toNat

/-- One character of a text quoted with `mark`. -/
def escapeIn (mark : Char) (c : Char) : List Char :=
  if c == mark || c == '\\' then ['\\', c]
  else if c == '\n' then ['\\', 'n']
  else if c == '\r' then ['\\', 'r']
  else if c == '\t' then ['\\', 't']
  else if isPrintable c then [c]
  else escapeCode c

/-- The text between quotes. -/
def quoted (s : String) : String :=
  let cs := s.toList
  let mark := quoteMark cs
  String.ofList (mark :: cs.flatMap (escapeIn mark) ++ [mark])

end Flipbook.Text
