import Flipbook.Text.CodePointSet

/-!
# Blanks and the trimming of texts

A blank is a character that separates words.  Names, keys and settings are read without the blanks
around them.
-/

namespace Flipbook.Text

/-- The characters that separate words: the white space of the standard and the four information
separators. -/
def blanks : CodePointSet := #[
  (9, 13), (28, 32), (133, 133), (160, 160), (5760, 5760), (8192, 8202), (8232, 8233),
  (8239, 8239), (8287, 8287), (12288, 12288)]

/-- `c` separates words. -/
def isBlank (c : Char) : Bool :=
  blanks.contains c

/-- The list without the elements at both ends that satisfy `p`. -/
def trimBy (p : Char → Bool) (cs : List Char) : List Char :=
  ((cs.dropWhile p).reverse.dropWhile p).reverse

/-- The text without the blanks at both ends. -/
def trim (s : String) : String :=
  String.ofList (trimBy isBlank s.toList)

/-- The text without the characters `c` at its start. -/
def dropLeading (c : Char) (s : String) : String :=
  String.ofList (s.toList.dropWhile (· == c))

end Flipbook.Text
