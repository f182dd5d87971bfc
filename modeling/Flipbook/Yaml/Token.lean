import Flipbook.Yaml.Spot

/-!
# Tokens of YAML
-/

namespace Flipbook.Yaml

/-- A line before a document that says how it is to be read. -/
inductive Directive
  /-- The version of the language. -/
  | version (major : Nat)
  /-- A handle stands for the start of the names of kinds. -/
  | handle (name beginning : String)
  /-- Anything else, which has no meaning. -/
  | reserved
  deriving DecidableEq, Repr

/-- A part of a text.  Indentation is made explicit by tokens for the starts and ends of blocks, and
the keys of mappings by a token before each. -/
inductive Token
  | directive (d : Directive)
  | documentStart
  | documentEnd
  | blockSequenceStart
  | blockMappingStart
  | blockEnd
  | flowSequenceStart
  | flowSequenceEnd
  | flowMappingStart
  | flowMappingEnd
  | key
  | value
  | blockEntry
  | flowEntry
  | anchor (name : String)
  | reference (name : String)
  | tag (handle : Option String) (name : String)
  | scalar (plain : Bool) (text : String)
  deriving DecidableEq, Repr

end Flipbook.Yaml
