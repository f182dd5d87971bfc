/-!
# What can be wrong with a YAML text
-/

namespace Flipbook.Yaml

/-- Why a scalar that has a kind has no value of that kind. -/
inductive ScalarFault
  /-- A number without any character. -/
  | noCharacters
  /-- No word for a truth value. -/
  | notTruthValue
  /-- No date and no moment. -/
  | notTimestamp
  /-- No numeral, a date that the calendar does not have, or a character that does not exist. -/
  | malformed
  /-- The number of a character is beyond all bounds. -/
  | outOfRange
  deriving DecidableEq, Repr

/-- Why a file holds no document. -/
inductive ReadFault
  /-- Its bytes are no text. -/
  | undecodable
  /-- The text does not follow the grammar. -/
  | malformed
  /-- A scalar has no value. -/
  | scalar (f : ScalarFault)
  deriving DecidableEq, Repr

end Flipbook.Yaml
