import Flipbook.Numeric.Scalar
import Flipbook.Raster.Canvas

/-!
# Segments

A segment is drawn by samples at equal distances, both ends included.  There are as many steps as
the longer of its two extents on the screen has whole units, and at least one.  They are counted in
a machine word: a float extent of `2 ^ 63` units or more, which fits into none, leaves one step.
-/

namespace Flipbook

/-- A straight line between two points. -/
@[ext] structure Segment (α : Type) where
  start : Vec3 α
  stop : Vec3 α
  deriving DecidableEq, Repr

namespace Segment

variable {α : Type}

section Samples

variable [Zero α] [Add α] [Sub α] [Mul α] [Div α] [Neg α] [NatCast α] [LT α] [DecidableLT α]
  [Floor α]

/-- A number without its sign. -/
def magnitude (a : α) : α := if a < 0 then -a else a

/-- The greater of two numbers. -/
def larger (a b : α) : α := if a < b then b else a

/-- The number of steps between the samples of a segment. -/
def steps (s : Segment α) : Nat :=
  let d := s.stop - s.start
  max (Floor.counter (larger (magnitude d.x) (magnitude d.y))).toNat 1

/-- The point after `t` of `n` steps. -/
def sample (s : Segment α) (n t : Nat) : Vec3 α :=
  s.start + (s.stop - s.start).scale ((t : α) / (n : α))

/-- The whole number nearest to a coordinate, a half rounded up. -/
def pixel? (a : α) : Option Int := Floor.floor? (a + ((1 : Nat) : α) / ((2 : Nat) : α))

/-- The fragment of a point; a point whose place on the screen is no number has none. -/
def fragment? (color : Rgb) (p : Vec3 α) : Option (Fragment α) := do
  return ⟨← pixel? p.x, ← pixel? p.y, p.z, color⟩

/-- The fragments of a segment in the order of its samples. -/
def fragments (color : Rgb) (s : Segment α) : List (Fragment α) :=
  (List.range (s.steps + 1)).filterMap fun t => fragment? color (s.sample s.steps t)

end Samples

/-- The segments of a list of end points. -/
def ofEnds : List (Vec3 α) → List (Segment α)
  | p :: q :: rest => ⟨p, q⟩ :: ofEnds rest
  | _ => []

end Segment

end Flipbook
