import Flipbook.Yaml.Fault

/-!
# Characters at their places

The meaning of a YAML text depends on the columns in which things stand.  A text is read as a list
of characters each of which knows its line and its column.
-/

namespace Flipbook.Yaml

/-- A character with its place in a text. -/
structure Spot where
  char : Char
  /-- How many characters come before. -/
  index : Nat
  line : Nat
  column : Nat
  deriving DecidableEq, Repr

/-- The part of a text that has not been read. -/
abbrev Rest := List Spot

/-- The character ends a line. -/
def isBreak (c : Char) : Bool := c == '\n' || c == '\u0085' || c == '\u2028' || c == '\u2029'

/-- A line end as it is kept in a text. -/
def keptBreak (c : Char) : Char := if c == '\u0085' then '\n' else c

/-- The character is a space or a tab. -/
def isSpace (c : Char) : Bool := c == ' ' || c == '\t'

/-- The character may stand in a text at all. -/
def isAllowed (c : Char) : Bool :=
  c == '\t' || c == '\n' || c == '\u0085' || (' ' ≤ c && c ≤ '~')
    || ('\u00a0' ≤ c && c != '\ufffe' && c != '\uffff')

/-- The character of a name: a letter, a digit, a hyphen or an underscore. -/
def isNameChar (c : Char) : Bool := c.isAlphanum || c == '-' || c == '_'

/-- Two characters that end a line together, and one that does so in old texts, become one line
end. -/
def unifyBreaks : List Char → List Char
  | '\r' :: '\n' :: cs => '\n' :: unifyBreaks cs
  | '\r' :: cs => '\n' :: unifyBreaks cs
  | c :: cs => c :: unifyBreaks cs
  | [] => []

/-- Characters with their places from a place on.  A byte order mark takes no column. -/
def spotsFrom (index line column : Nat) : List Char → Rest
  | [] => []
  | c :: cs => ⟨c, index, line, column⟩ ::
    if isBreak c then spotsFrom (index + 1) (line + 1) 0 cs
    else if c == '\ufeff' then spotsFrom (index + 1) line column cs
    else spotsFrom (index + 1) line (column + 1) cs

/-- The text without a byte order mark at its start. -/
def dropMark : List Char → List Char
  | '\ufeff' :: cs => cs
  | cs => cs

namespace Rest

/-- The text with the places of its characters, which must all be allowed. -/
def ofText (text : String) : Except ReadFault Rest :=
  let cs := unifyBreaks text.toList
  if cs.all isAllowed then .ok (spotsFrom 0 0 0 (dropMark cs)) else .error .malformed

/-- The next character. -/
def peek (r : Rest) : Option Char := r.head?.map (·.char)

/-- The character `n` places on. -/
def peekAt (r : Rest) (n : Nat) : Option Char := peek (r.drop n)

/-- The characters at the start that satisfy `p`, and the rest. -/
def spanBy (p : Char → Bool) (r : Rest) : List Char × Rest :=
  ((r.takeWhile fun s => p s.char).map (·.char), r.dropWhile fun s => p s.char)

/-- The rest after the spaces at its start. -/
def dropSpaces (r : Rest) : Rest := r.dropWhile (·.char == ' ')

/-- The rest of the line is left out. -/
def dropLine (r : Rest) : Rest := r.dropWhile fun s => !isBreak s.char

/-- The line end at the start, as it is kept in a text, and the rest. -/
def splitBreak : Rest → List Char × Rest
  | s :: r => if isBreak s.char then ([keptBreak s.char], r) else ([], s :: r)
  | [] => ([], [])

end Rest

/-- A character ends a line, or there is none. -/
def endsLine : Option Char → Bool
  | none => true
  | some c => isBreak c

/-- A character ends a line or is a space, or there is none. -/
def endsField (c : Option Char) : Bool := endsLine c || c == some ' '

/-- A character ends a line or separates words, or there is none. -/
def endsWord (c : Option Char) : Bool := endsField c || c == some '\t'

/-- Three hyphens or three dots on their own at the start separate documents. -/
def Rest.startsSeparator (mark : Char) (r : Rest) : Bool :=
  (r.take 3).map (·.char) == [mark, mark, mark] && endsWord (r.peekAt 3)

/-- One of the two separators of documents stands at the start. -/
def Rest.atSeparator (r : Rest) : Bool := r.startsSeparator '-' || r.startsSeparator '.'

end Flipbook.Yaml
