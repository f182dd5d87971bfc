import Flipbook.Geometry.Fault
import Flipbook.Geometry.Matrix
import Flipbook.Numeric.NumArray

/-!
# Vectors, matrices and arrays

A vector is an array of three numbers and a transformation one of four rows and four columns.
-/

namespace Flipbook

/-- The vector of an array of three numbers. -/
def Vec3.ofArray? {α : Type} (a : NumArray α) : Option (Vec3 α) :=
  match a.shape, a.entries.toList with
  | [3], [x, y, z] => some ⟨x, y, z⟩
  | _, _ => none

namespace Matrix4

variable {α : Type}

/-- The matrix as an array. -/
def toArray (m : Matrix4 α) : NumArray α := ⟨[4, 4], (m.rows.flatMap Vec4.toList).toArray⟩

/-- The matrix of an array of four rows and four columns. -/
def ofArray (a : NumArray α) : Except GeometryFault (Matrix4 α) :=
  match a.shape, a.entries.toList with
  | [4, 4], [a, b, c, d, e, f, g, h, i, j, k, l, m, n, o, p] =>
    .ok ⟨⟨a, b, c, d⟩, ⟨e, f, g, h⟩, ⟨i, j, k, l⟩, ⟨m, n, o, p⟩⟩
  | shape, _ => .error (.transformShape shape)

end Matrix4

end Flipbook
