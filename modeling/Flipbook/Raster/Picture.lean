import Flipbook.Fault

/-!
# Pictures

A picture is a rectangle of colours, from the top row to the bottom row.
-/

namespace Flipbook

/-- A colour by its three channels. -/
structure Rgb where
  red : UInt8
  green : UInt8
  blue : UInt8
  deriving DecidableEq, Repr

namespace Rgb

/-- The colour of the empty picture. -/
def black : Rgb := ⟨0, 0, 0⟩

/-- The channels in order. -/
def toList (c : Rgb) : List Nat := [c.red.toNat, c.green.toNat, c.blue.toNat]

/-- A channel of any size, brought into range. -/
def saturate (n : Int) : UInt8 := UInt8.ofNat (min n.toNat 255)

/-- The colour nearest to three channels of any size. -/
def saturated (v : Vec3 Int) : Rgb := ⟨saturate v.x, saturate v.y, saturate v.z⟩

/-- The colour nearest to three channels, which have to be within the range of floats. -/
def ofChannels (v : Vec3 Int) : Except Fault Rgb :=
  if v.toList.all fun n => (OfInteger.ofInteger? n : Option Float).isSome then .ok (saturated v)
  else .error (.conversion .outOfRange)

/-- The colour of three bytes in a row. -/
def ofBytes? (bytes : Array UInt8) (start : Nat) : Option Rgb := do
  return ⟨← bytes[start]?, ← bytes[start + 1]?, ← bytes[start + 2]?⟩

end Rgb

/-- A rectangle of colours, row by row from the top. -/
structure Picture where
  height : Nat
  width : Nat
  pixels : Array Rgb
  deriving DecidableEq, Repr

namespace Picture

/-- The picture of one colour. -/
def solid (height width : Nat) (c : Rgb) : Picture :=
  ⟨height, width, Array.replicate (height * width) c⟩

/-- The sizes as they are listed: rows, columns and channels. -/
def shape (p : Picture) : List Nat := [p.height, p.width, 3]

/-- A pixel by its row and its column. -/
def at? (p : Picture) (row column : Nat) : Option Rgb :=
  if column < p.width then p.pixels[row * p.width + column]? else none

/-- The picture of rows, columns and channels of bytes. -/
def ofBytes (a : NumArray UInt8) : Except Fault Picture :=
  match a.shape with
  | [height, width, 3] =>
    .ok ⟨height, width,
      (Array.range (height * width)).filterMap fun i => Rgb.ofBytes? a.entries (3 * i)⟩
  | shape => .error (.pictureShape shape)

/-- A value as a byte, as the entries of pictures are stored: cut to a whole number, of which the
lowest eight bits count. -/
def wrapToByte (v : Value) : Except ConversionFault UInt8 := do
  return UInt8.ofNat ((← v.toInt).emod 256).toNat

/-- The picture of a nested list of numbers. -/
def ofValue (v : Value) : Except Fault Picture := do
  let some shape := NumArray.shapeOf? v | throw (.conversion .malformed)
  let [_, _, 3] := shape | throw (.pictureShape shape)
  let bytes ← Fault.ofConversion ((NumArray.leaves v).mapM wrapToByte)
  ofBytes ⟨shape, bytes.toArray⟩

/-- A value as a byte of a background: a whole number has to be in range, a float is cut. -/
def byteOfValue : Value → Except ConversionFault UInt8
  | v@(.float _) => match v.toInt with
    | .ok n => .ok (UInt8.ofNat (n.emod 256).toNat)
    | .error _ => .ok 0
  | v => do
    let n ← v.toInt
    if 0 ≤ n ∧ n < 256 then return UInt8.ofNat n.toNat else throw .outOfRange

/-- A picture filled with an array of bytes that is repeated as often as needed. -/
def filled (size : Nat) (background : NumArray UInt8) : Except Fault Picture := do
  let target : NumArray Unit := .fill [size, size, 3] ()
  let some filled := NumArray.zipWith? (fun _ b => b) target background | throw .shapeMismatch
  if filled.shape ≠ target.shape then throw .shapeMismatch
  ofBytes filled

/-- The bytes of a nested list that fills a picture. -/
def backgroundOfValue (v : Value) : Except ConversionFault (NumArray UInt8) :=
  match NumArray.shapeOf? v with
  | none => .error .malformed
  | some shape => do return ⟨shape, (← (NumArray.leaves v).mapM byteOfValue).toArray⟩

end Picture

end Flipbook
