import Flipbook.Text.Digit

/-!
# Kinds of nodes

Every node of a document has a kind.  A plain scalar without one gets it from its text: words for
truth values, numerals, dates and a few signs are known by their forms, and anything else is text.
-/

namespace Flipbook.Yaml

/-- The kind of a node. -/
inductive Tag
  | null | bool | int | float | binary | timestamp | str
  | seq | map | set | omap | pairs
  /-- The key under which a mapping takes over the entries of others. -/
  | merge
  /-- The key of the default value of a mapping. -/
  | value
  /-- A kind that nothing is known of. -/
  | unknown
  deriving DecidableEq, Repr

namespace Tag

/-- What the names of the kinds start with. -/
def beginning : String := "tag:yaml.org,2002:"

/-- The names of the kinds. -/
def names : List (String × Tag) := [
  ("null", null), ("bool", bool), ("int", int), ("float", float), ("binary", binary),
  ("timestamp", timestamp), ("str", str), ("seq", seq), ("map", map), ("set", set),
  ("omap", omap), ("pairs", pairs), ("merge", merge), ("value", value)]

/-- The kind of a name. -/
def ofName (name : String) : Tag :=
  ((names.find? fun n => beginning ++ n.1 == name).map (·.2)).getD unknown

/-! ### The forms of plain scalars -/

/-- The word is one of those, written in small letters, with a capital or in capitals. -/
def isWord (words : List String) (text : String) : Bool :=
  words.any fun w => match w.toList with
    | [] => false
    | c :: cs =>
      [c :: cs, c.toUpper :: cs, (c :: cs).map Char.toUpper].any (· == text.toList)

/-- The words for truth values. -/
def isBool (text : String) : Bool := isWord ["yes", "no", "true", "false", "on", "off"] text

/-- The words and signs for the missing value. -/
def isNull (text : String) : Bool := text == "" || text == "~" || isWord ["null"] text

/-- The text without a sign at its start. -/
def unsigned : List Char → List Char
  | '+' :: cs | '-' :: cs => cs
  | cs => cs

/-- A digit or an underscore. -/
def isDigitOrGap (c : Char) : Bool := c.isDigit || c == '_'

/-- One or more characters that all satisfy `p`. -/
def allOf (p : Char → Bool) (cs : List Char) : Bool := !cs.isEmpty && cs.all p

/-- A digit and further digits and underscores up to the rest. -/
def digitsThen (p : List Char → Bool) : List Char → Bool
  | c :: cs => c.isDigit && p (cs.dropWhile isDigitOrGap)
  | [] => false

/-- Groups of one or two digits below sixty after colons, and the rest; at least one group if
`needed`. -/
def sexagesimalThen (needed : Bool) (p : List Char → Bool) : List Char → Bool
  | ':' :: a :: b :: cs =>
    if b.isDigit then '0' ≤ a && a ≤ '5' && sexagesimalThen false p cs
    else a.isDigit && sexagesimalThen false p (b :: cs)
  | [':', a] => a.isDigit && p []
  | cs => !needed && p cs

/-- A whole number in base ten, two, eight, sixteen or sixty. -/
def isInt (text : String) : Bool :=
  match unsigned text.toList with
  | ['0'] => true
  | '0' :: 'b' :: cs => allOf (fun c => c == '0' || c == '1' || c == '_') cs
  | '0' :: 'x' :: cs => allOf (fun c => (Text.hexDigitValue? c).isSome || c == '_') cs
  | '0' :: cs => allOf (fun c => ('0' ≤ c && c ≤ '7') || c == '_') cs
  | cs => digitsThen (fun r => r.isEmpty || sexagesimalThen true List.isEmpty r) cs

/-- Nothing, or an exponent of ten with its sign. -/
def isExponent : List Char → Bool
  | [] => true
  | e :: s :: cs => (e == 'e' || e == 'E') && (s == '+' || s == '-') && allOf Char.isDigit cs
  | _ => false

/-- A float in base ten or sixty with a point, an infinity, or the word for no number. -/
def isFloat (text : String) : Bool :=
  let fraction (cs : List Char) : Bool := isExponent (cs.dropWhile isDigitOrGap)
  let pointed : List Char → Bool
    | '.' :: cs => fraction cs
    | _ => false
  let sexagesimal : List Char → Bool
    | '.' :: cs => cs.all isDigitOrGap
    | _ => false
  let infinite : List Char → Bool
    | '.' :: cs => isWord ["inf"] (String.ofList cs)
    | _ => false
  let cs := unsigned text.toList
  digitsThen pointed cs || digitsThen (sexagesimalThen true sexagesimal) cs || infinite cs
    || match text.toList with
      | '.' :: cs => digitsThen isExponent cs || ["nan", "NaN", "NAN"].contains (String.ofList cs)
      | _ => false

end Tag

end Flipbook.Yaml
