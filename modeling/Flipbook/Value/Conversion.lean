import Flipbook.Numeric.Scalar
import Flipbook.Value.Printer

/-!
# Values read as numbers and as texts

Settings and configurations take numbers in any form: whole numbers, floats, truth values and
numerals in texts.  Names are made of any scalar.  A conversion that fails says why.
-/

namespace Flipbook

/-- Why a value is not converted. -/
inductive ConversionFault
  /-- No value of this kind is converted. -/
  | wrongKind
  /-- The value has the right kind but no such reading. -/
  | malformed
  /-- The result lies outside the range of the target. -/
  | outOfRange
  /-- The value lacks the parts that its use asks for. -/
  | noMapping
  /-- The value is a text, which arithmetic is not defined for. -/
  | noArithmetic
  /-- A whole number has too many digits to be written. -/
  | tooManyDigits
  deriving DecidableEq, Repr

namespace Scalar

/-- The text of a byte string, one character for each byte. -/
def bytesText (data : List UInt8) : String :=
  String.ofList (data.map fun b => Char.ofNat b.toNat)

/-- The scalar read as a float. -/
def toFloat : Scalar → Except ConversionFault Float
  | bool b => .ok (if b then 1.0 else 0.0)
  | int n => match OfInteger.ofInteger? n with
    | some x => .ok x
    | none => .error .outOfRange
  | float x => .ok x
  | str s => match Text.float? s with
    | some x => .ok x
    | none => .error .malformed
  | bytes data => match Text.float? (bytesText data) with
    | some x => .ok x
    | none => .error .malformed
  | _ => .error .wrongKind

/-- The scalar read as a whole number; a float loses its fraction. -/
def toInt : Scalar → Except ConversionFault Int
  | bool b => .ok (if b then 1 else 0)
  | int n => .ok n
  | float x => match Numeric.Binary64.read x with
    | .nan => .error .malformed
    | r => match r.trunc? with
      | some n => .ok n
      | none => .error .outOfRange
  | str s => match Text.integer? s with
    | some n => .ok n
    | none => .error .malformed
  | bytes data => match Text.integer? (bytesText data) with
    | some n => .ok n
    | none => .error .malformed
  | _ => .error .wrongKind

/-- The scalar as a text, unless it is a number that is too long to be written. -/
def toText (s : Scalar) : Except ConversionFault String :=
  if s.isWritable then .ok s.text else .error .tooManyDigits

end Scalar

namespace Value

/-- The value read as a float. -/
def toFloat : Value → Except ConversionFault Float
  | scalar s => s.toFloat
  | _ => .error .wrongKind

/-- The value read as a whole number. -/
def toInt : Value → Except ConversionFault Int
  | scalar s => s.toInt
  | _ => .error .wrongKind

/-- The value as a text, unless it holds a number that is too long to be written. -/
def toText (v : Value) : Except ConversionFault String :=
  if v.isWritable then .ok v.text else .error .tooManyDigits

/-- The parts of a value that is gone through: items, keys, characters or bytes. -/
def elements : Value → Except ConversionFault (List Value)
  | list items | tuple items => .ok items
  | set items => .ok (items.map scalar)
  | map fields => .ok (fields.map fun f => scalar f.1)
  | str s => .ok (s.toList.map fun c => str (String.singleton c))
  | scalar (.bytes data) => .ok (data.map fun b => int b.toNat)
  | scalar _ => .error .wrongKind

/-- Exactly three parts, each converted.  Parts are converted in order up to the fourth, so that a
part that fails is reported before a wrong number of parts. -/
def three {β : Type} (convert : Value → Except ConversionFault β) (v : Value) :
    Except ConversionFault (β × β × β) := do
  let parts ← (← v.elements).take 4 |>.mapM convert
  match parts with
  | [x, y, z] => .ok (x, y, z)
  | _ => .error .malformed

/-- The entries of a mapping. -/
def asMapping : Value → Except ConversionFault (List (Scalar × Value))
  | map fields => .ok fields
  | _ => .error .noMapping

/-- The entries of a mapping, or none for a value that is missing, zero or empty. -/
def asMappingOrEmpty (v : Value) : Except ConversionFault (List (Scalar × Value)) :=
  if v.truthy then v.asMapping else .ok []

end Value

end Flipbook
