import Flipbook.Geometry.Vector

/-!
# Boxes

A box hangs from its upper left front corner: it extends to the right, downwards and away from the
viewer.  Its six faces are quadrangles, each cut into two triangles.
-/

namespace Flipbook.Mesh

/-- A corner of a box: whether it lies on the right, at the bottom and at the back. -/
abbrev BoxCorner := Bool × Bool × Bool

/-- Four corners in order. -/
abbrev BoxFace := BoxCorner × BoxCorner × BoxCorner × BoxCorner

/-- The corner at three places of which each is zero or one. -/
def boxCorner (x y z : Nat) : BoxCorner := (x != 0, y != 0, z != 0)

/-- Front, back, right, left, top and bottom, each turning left when it is seen from outside. -/
def boxFaces : List BoxFace := [
  (boxCorner 0 0 0, boxCorner 0 1 0, boxCorner 1 1 0, boxCorner 1 0 0),
  (boxCorner 0 0 1, boxCorner 1 0 1, boxCorner 1 1 1, boxCorner 0 1 1),
  (boxCorner 1 0 0, boxCorner 1 1 0, boxCorner 1 1 1, boxCorner 1 0 1),
  (boxCorner 0 0 1, boxCorner 0 1 1, boxCorner 0 1 0, boxCorner 0 0 0),
  (boxCorner 0 0 1, boxCorner 0 0 0, boxCorner 1 0 0, boxCorner 1 0 1),
  (boxCorner 0 1 0, boxCorner 0 1 1, boxCorner 1 1 1, boxCorner 1 1 0)]

/-- The corners of the two triangles of a quadrangle. -/
def splitFace : BoxFace → List BoxCorner
  | (a, b, c, d) => [a, b, c, a, c, d]

/-- The corners of the twelve triangles of a box. -/
def boxCorners : List BoxCorner := boxFaces.flatMap splitFace

variable {α : Type} [Zero α] [One α]

/-- One for a corner on the far side, zero on the near side. -/
def sideFactor (far : Bool) : α := if far then 1 else 0

/-- A corner as a vector of zeros and ones. -/
def BoxCorner.unit (c : BoxCorner) : Vec3 α :=
  ⟨sideFactor c.1, sideFactor c.2.1, sideFactor c.2.2⟩

/-- Where the extent of a box points to. -/
def boxDirection [Neg α] : Vec3 α := ⟨1, -1, -1⟩

/-- The triangles of a box. -/
def box [Add α] [Mul α] [Neg α] (corner extent : Vec3 α) : Array (Vec3 α) :=
  let extent := extent.zipWith (· * ·) boxDirection
  (boxCorners.map fun c => corner + (BoxCorner.unit c).zipWith (· * ·) extent).toArray

end Flipbook.Mesh
