import Flipbook.Geometry.MatrixArray
import Flipbook.Outcome

/-!
# Buffers of pending geometry

A buffer collects the points of edges or polygons until they are transformed and drawn.  It owns a
row of columns, and the first of them hold the points.  New points are written to the columns after
those; where they do not suffice, the points are copied to a longer row, whose length is that of
the old one doubled as often as needed.  Clearing a buffer forgets how many columns hold points and
keeps the row.

A buffer is changed in place: the outcome of a call holds the buffer that it leaves behind, whether
the call came to its end or not.
-/

namespace Flipbook

/-- Columns of homogeneous coordinates, the first of which hold points in groups of the stride of
their kind. -/
structure GeometryBuffer (α : Type) where
  /-- What the points are the corners of. -/
  kind : BufferKind
  /-- The columns there are; what those after the points hold is of no account. -/
  columns : Array (Vec4 α)
  /-- How many columns hold points. -/
  count : Nat
  /-- There is room for one element at least. -/
  room : kind.stride ≤ columns.size
  deriving DecidableEq, Repr

namespace GeometryBuffer

variable {α : Type}

/-- The points. -/
def points (b : GeometryBuffer α) : Array (Vec4 α) := b.columns.extract 0 b.count

/-- How many points there is room for. -/
def capacity (b : GeometryBuffer α) : Nat := b.columns.size

/-- The number of elements. -/
def size (b : GeometryBuffer α) : Nat := b.count / b.kind.stride

/-- The room of a buffer that is made without saying how much is needed. -/
def defaultCapacity : Nat := 64

theorem capacity_pos (b : GeometryBuffer α) : 0 < b.capacity :=
  Nat.lt_of_lt_of_le (by cases b.kind <;> decide) b.room

/-- `capacity` doubled until it reaches `need`. -/
def grownTo (need capacity : Nat) (h : 0 < capacity) : Nat :=
  if capacity < need then grownTo need (2 * capacity) (by omega) else capacity
termination_by need - capacity

theorem le_grownTo (need capacity : Nat) (h : 0 < capacity) :
    capacity ≤ grownTo need capacity h := by
  fun_induction grownTo need capacity h <;> omega

section Room

variable [Zero α]

/-- Columns of zeros. -/
def zeroColumns (n : Nat) : Array (Vec4 α) := Array.replicate n ⟨0, 0, 0, 0⟩

/-- The empty buffer with room for at least one element. -/
def withCapacity (kind : BufferKind) (requested : Int) : GeometryBuffer α where
  kind := kind
  columns := zeroColumns (max requested.toNat kind.stride)
  count := 0
  room := by rw [zeroColumns, Array.size_replicate]; exact Nat.le_max_right ..

/-- The empty buffer of a kind. -/
def empty (kind : BufferKind) : GeometryBuffer α := withCapacity kind defaultCapacity

/-- Makes room for further points. -/
def reserve (b : GeometryBuffer α) (extra : Nat) : GeometryBuffer α :=
  if b.count + extra ≤ b.capacity then b
  else
    let capacity := grownTo (b.count + extra) b.capacity b.capacity_pos
    { b with
      columns := b.points ++ zeroColumns (capacity - b.points.size)
      room := by
        have hroom : b.kind.stride ≤ b.capacity := b.room
        have hgrown : b.capacity ≤ capacity := le_grownTo ..
        rw [zeroColumns, Array.size_append, Array.size_replicate]
        omega }

end Room

/-- Writes to the columns after the points, which must suffice. -/
def write (b : GeometryBuffer α) (vertices : Array (Vec4 α)) : Outcome (GeometryBuffer α) :=
  if h : b.count + vertices.size ≤ b.capacity then
    .done { b with
      columns := b.points ++ vertices ++ b.columns.extract (b.count + vertices.size) b.capacity
      room := by
        have hroom : b.kind.stride ≤ b.columns.size := b.room
        simp only [points, capacity, Array.size_append, Array.size_extract] at h ⊢
        omega }
  else .failed b .shapeMismatch

/-- Takes further columns for points. -/
def advance (b : GeometryBuffer α) (n : Nat) : GeometryBuffer α := { b with count := b.count + n }

/-- Adds points, which must make up whole elements. -/
def append [Zero α] (b : GeometryBuffer α) (vertices : Array (Vec4 α)) :
    Outcome (GeometryBuffer α) :=
  if vertices.size % b.kind.stride = 0 then
    ((b.reserve vertices.size).write vertices).andThen fun b => .done (b.advance vertices.size)
  else .failed b (.geometry (.partialElement b.kind vertices.size))

/-- The triples of a list of coordinates. -/
def triples : List α → List (Vec3 α)
  | x :: y :: z :: rest => ⟨x, y, z⟩ :: triples rest
  | _ => []

/-- The points of an array: rows of three coordinates, or a flat list of triples. -/
def pointsOf (a : NumArray α) : Except GeometryFault (Array (Vec3 α)) :=
  match a.shape with
  | [n] => if n % 3 = 0 then .ok (triples a.entries.toList).toArray else .error .flatLength
  | [_, 3] => .ok (triples a.entries.toList).toArray
  | shape => .error (.pointShape shape)

section Points

variable [Zero α] [One α]

/-- Adds the points of a mesh. -/
def addVertices (b : GeometryBuffer α) (vertices : Array (Vec3 α)) : Outcome (GeometryBuffer α) :=
  b.append (vertices.map Vec3.homogeneous)

/-- Adds the points of an array. -/
def extend (b : GeometryBuffer α) (a : NumArray α) : Outcome (GeometryBuffer α) :=
  .given b (Fault.ofGeometry (pointsOf a)) b.addVertices

end Points

section Transformation

variable [Add α] [Mul α]

/-- Transforms every point. -/
def apply (b : GeometryBuffer α) (m : Matrix4 α) : GeometryBuffer α :=
  { b with
    columns := b.points.map m.apply ++ b.columns.extract b.count b.capacity
    room := by
      have hroom : b.kind.stride ≤ b.columns.size := b.room
      simp only [points, capacity, Array.size_append, Array.size_map, Array.size_extract]
      omega }

/-- Transforms every point by the matrix of an array. -/
def applyArray (b : GeometryBuffer α) (a : NumArray α) : Outcome (GeometryBuffer α) :=
  .given b (Fault.ofGeometry (Matrix4.ofArray a)) fun m => .done (b.apply m)

end Transformation

/-- Removes all points and keeps the room. -/
def clear (b : GeometryBuffer α) : GeometryBuffer α := { b with count := 0 }

/-- The points without their fourth coordinates. -/
def cartesian (b : GeometryBuffer α) : Array (Vec3 α) := b.points.map Vec4.cartesian

end GeometryBuffer

end Flipbook
