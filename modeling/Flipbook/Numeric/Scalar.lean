import Flipbook.Numeric.Binary64

/-!
# Numbers that geometry is computed with

Geometry, animation and drawing are written for any type of numbers with the operations they use.
The classes here name the operations beyond arithmetic; their instances at `Float` are what runs.
-/

namespace Flipbook

/-- Numbers that whole numbers convert to, where they are within range. -/
class OfInteger (α : Type) where
  /-- The number nearest to a whole number. -/
  ofInteger? : Int → Option α

/-- Numbers with a whole part, unless they are infinite or no number at all. -/
class Floor (α : Type) where
  /-- The greatest whole number that is not above a number. -/
  floor? : α → Option Int
  /-- The number is infinite, and not only lacks a value. -/
  isInfinite : α → Bool
  /-- The whole part of a number as loops keep it that count up to it. -/
  counter : α → Int

/-- Numbers with the circular functions of angles in radians. -/
class Circular (α : Type) where
  /-- Half a turn. -/
  pi : α
  /-- One degree. -/
  degree : α
  /-- The cosine of an angle. -/
  cos : α → α
  /-- The sine of an angle. -/
  sin : α → α

/-- Numbers with a value that lies behind every other as a depth. -/
class Farthest (α : Type) where
  /-- The depth of the background. -/
  farthest : α

instance instNatCastFloat : NatCast Float := ⟨Float.ofNat⟩

instance : OfInteger Float where
  ofInteger? n :=
    let x := Float.ofInt n
    if (Numeric.Binary64.read x).isFinite then some x else none

instance : Floor Float where
  floor? x := (Numeric.Binary64.read x).floor?
  isInfinite x := match Numeric.Binary64.read x with
    | .infinite _ => true
    | _ => false
  counter x := (Numeric.Binary64.read x).toWord

instance : Circular Float where
  pi := 3.141592653589793
  degree := 3.141592653589793 / 180.0
  cos := Float.cos
  sin := Float.sin

instance : Farthest Float := ⟨-(1.0 / 0.0)⟩

end Flipbook
