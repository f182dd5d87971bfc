import Flipbook.Geometry.Vector
import Flipbook.Numeric.Scalar

/-!
# Transformations as matrices

A transformation of space is a four-by-four matrix that acts on homogeneous columns from the left.
The product of two matrices is the transformation of the right one followed by the left one.
-/

namespace Flipbook

/-- The three axes of space. -/
inductive Axis
  | x
  | y
  | z
  deriving DecidableEq, Repr

namespace Axis

/-- The number of an axis, from zero. -/
def index : Axis → Nat
  | x => 0
  | y => 1
  | z => 2

/-- The axis of a number; every number but zero and one means the third axis. -/
def ofIndex (i : Int) : Axis :=
  if i = 0 then x else if i = 1 then y else z

end Axis

/-- A four-by-four matrix by its rows. -/
@[ext] structure Matrix4 (α : Type) where
  row0 : Vec4 α
  row1 : Vec4 α
  row2 : Vec4 α
  row3 : Vec4 α
  deriving DecidableEq, Repr

namespace Matrix4

variable {α : Type}

/-- The rows in order. -/
def rows (m : Matrix4 α) : List (Vec4 α) := [m.row0, m.row1, m.row2, m.row3]

/-- The columns in order. -/
def columns (m : Matrix4 α) : Vec4 α × Vec4 α × Vec4 α × Vec4 α :=
  (⟨m.row0.x, m.row1.x, m.row2.x, m.row3.x⟩, ⟨m.row0.y, m.row1.y, m.row2.y, m.row3.y⟩,
    ⟨m.row0.z, m.row1.z, m.row2.z, m.row3.z⟩, ⟨m.row0.w, m.row1.w, m.row2.w, m.row3.w⟩)

section Arithmetic

variable [Add α] [Mul α]

/-- The matrix applied to a column. -/
def apply (m : Matrix4 α) (v : Vec4 α) : Vec4 α :=
  ⟨m.row0.dot v, m.row1.dot v, m.row2.dot v, m.row3.dot v⟩

/-- The product of two matrices. -/
def mul (a b : Matrix4 α) : Matrix4 α :=
  let (c0, c1, c2, c3) := b.columns
  let row (r : Vec4 α) : Vec4 α := ⟨r.dot c0, r.dot c1, r.dot c2, r.dot c3⟩
  ⟨row a.row0, row a.row1, row a.row2, row a.row3⟩

instance : Mul (Matrix4 α) := ⟨mul⟩

end Arithmetic

variable [Zero α] [One α]

/-- The transformation that moves nothing. -/
def identity : Matrix4 α :=
  ⟨⟨1, 0, 0, 0⟩, ⟨0, 1, 0, 0⟩, ⟨0, 0, 1, 0⟩, ⟨0, 0, 0, 1⟩⟩

/-- The move by a vector. -/
def shift (d : Vec3 α) : Matrix4 α :=
  ⟨⟨1, 0, 0, d.x⟩, ⟨0, 1, 0, d.y⟩, ⟨0, 0, 1, d.z⟩, ⟨0, 0, 0, 1⟩⟩

/-- The stretch along the axes. -/
def scaling (k : Vec3 α) : Matrix4 α :=
  ⟨⟨k.x, 0, 0, 0⟩, ⟨0, k.y, 0, 0⟩, ⟨0, 0, k.z, 0⟩, ⟨0, 0, 0, 1⟩⟩

variable [Neg α]

/-- The turn about an axis by the angle with the given cosine and sine. -/
def turn (axis : Axis) (c s : α) : Matrix4 α :=
  match axis with
  | .x => ⟨⟨1, 0, 0, 0⟩, ⟨0, c, -s, 0⟩, ⟨0, s, c, 0⟩, ⟨0, 0, 0, 1⟩⟩
  | .y => ⟨⟨c, 0, s, 0⟩, ⟨0, 1, 0, 0⟩, ⟨-s, 0, c, 0⟩, ⟨0, 0, 0, 1⟩⟩
  | .z => ⟨⟨c, -s, 0, 0⟩, ⟨s, c, 0, 0⟩, ⟨0, 0, 1, 0⟩, ⟨0, 0, 0, 1⟩⟩

/-- The turn about an axis by an angle in radians. -/
def rotation [Circular α] (axis : Axis) (angle : α) : Matrix4 α :=
  turn axis (Circular.cos angle) (Circular.sin angle)

end Matrix4

end Flipbook
