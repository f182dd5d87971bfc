import Flipbook.Text.Blank
import Flipbook.Text.Digit

/-!
# Numerals in texts

`integer?` reads a whole number and `float?` a float from a text, blanks around it left out.
Digits of any script count, and single underscores may stand between digits.
-/

namespace Flipbook.Text

/-- The characters that are left out around a numeral: the ASCII blanks less the information
separators, and all others. -/
def isNumeralBlank (c : Char) : Bool :=
  isBlank c && !(28 ≤ c.toNat && c.toNat ≤ 31)

/-- The sign at the start, and the rest. -/
def splitSign : List Char → Bool × List Char
  | '-' :: cs => (true, cs)
  | '+' :: cs => (false, cs)
  | cs => (false, cs)

/-- Removes underscores, each of which must stand between two digits; `afterDigit` says that a
digit stands before. -/
def dropUnderscores (afterDigit : Bool) : List Char → Option (List Char)
  | [] => some []
  | '_' :: c :: cs =>
    if afterDigit && (digitValue? c).isSome then (dropUnderscores true cs).map (c :: ·) else none
  | c :: cs =>
    if c == '_' then none else (dropUnderscores (digitValue? c).isSome cs).map (c :: ·)

/-- The digits at the start with their values, and the rest. -/
def spanDigits : List Char → List Nat × List Char
  | [] => ([], [])
  | c :: cs => match digitValue? c with
    | some d => let (ds, rest) := spanDigits cs; (d :: ds, rest)
    | none => ([], c :: cs)

/-- The number with the given decimal digits. -/
def ofDigits (ds : List Nat) : Nat :=
  ds.foldl (fun n d => 10 * n + d) 0

/-- The most digits of a whole number that is read from a text or written as one. -/
def maxIntegerDigits : Nat := 4300

/-- The least whole number with too many digits. -/
@[irreducible] def writtenBound : Nat := Nat.pow 10 maxIntegerDigits

/-- A whole number is short enough to be written. -/
def isWritable (n : Int) : Bool := n.natAbs < writtenBound

/-- The whole number that a text denotes. -/
def integer? (s : String) : Option Int := do
  let (negative, cs) := splitSign (trimBy isNumeralBlank s.toList)
  let cs ← dropUnderscores false cs
  match spanDigits cs with
  | ([], _) => none
  | (ds, []) =>
    if ds.length ≤ maxIntegerDigits then some (if negative then -ofDigits ds else ofDigits ds)
    else none
  | _ => none

/-- A float numeral: `± digits · 10 ^ exponent`. -/
structure FloatNumeral where
  /-- The sign. -/
  negative : Bool
  /-- All digits, as one number. -/
  digits : Nat
  /-- The power of ten of the last digit. -/
  exponent : Int

/-- The nearest float.  Powers of ten far outside the range are not computed. -/
def FloatNumeral.toFloat (x : FloatNumeral) : Float :=
  let first := x.exponent + x.digits.repr.length
  let magnitude :=
    if x.digits = 0 || first < -400 then 0.0
    else if 400 < first then 1.0 / 0.0
    else Float.ofScientific x.digits (x.exponent < 0) x.exponent.natAbs
  if x.negative then -magnitude else magnitude

/-- The exponent part of a numeral, to the end of the text. -/
def exponent? : List Char → Option Int
  | [] => some 0
  | e :: cs =>
    if e == 'e' || e == 'E' then
      let (negative, cs) := splitSign cs
      match spanDigits cs with
      | ([], _) => none
      | (ds, []) => some (if negative then -ofDigits ds else ofDigits ds)
      | _ => none
    else none

/-- The digits of a numeral, with a point at most, and its exponent. -/
def unsigned? (negative : Bool) (cs : List Char) : Option FloatNumeral := do
  let (whole, rest) := spanDigits cs
  let (fraction, rest) := match rest with
    | '.' :: rest => spanDigits rest
    | rest => ([], rest)
  if whole.isEmpty && fraction.isEmpty then none
  let e ← exponent? rest
  some ⟨negative, ofDigits (whole ++ fraction), e - fraction.length⟩

/-- The float that a text denotes; infinities and the missing number have names. -/
def float? (s : String) : Option Float := do
  let cs ← dropUnderscores false (trimBy isNumeralBlank s.toList)
  let (negative, cs) := splitSign cs
  let signed (x : Float) : Float := if negative then -x else x
  match String.ofList (cs.map Char.toLower) with
  | "inf" | "infinity" => some (signed (1.0 / 0.0))
  | "nan" => some (0.0 / 0.0)
  | _ => (unsigned? negative cs).map (·.toFloat)

end Flipbook.Text
