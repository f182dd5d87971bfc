/-!
# Vectors

Points and directions of space, and their homogeneous forms with a fourth coordinate.
-/

namespace Flipbook

/-- A point or a direction. -/
@[ext] structure Vec3 (α : Type) where
  x : α
  y : α
  z : α
  deriving DecidableEq, Repr

/-- A point in homogeneous coordinates. -/
@[ext] structure Vec4 (α : Type) where
  x : α
  y : α
  z : α
  w : α
  deriving DecidableEq, Repr

namespace Vec3

variable {α β : Type}

/-- The coordinates in order. -/
def toList (v : Vec3 α) : List α := [v.x, v.y, v.z]

/-- The vector of three coordinates. -/
def ofTriple (t : α × α × α) : Vec3 α := ⟨t.1, t.2.1, t.2.2⟩

/-- Every coordinate mapped. -/
def map (f : α → β) (v : Vec3 α) : Vec3 β := ⟨f v.x, f v.y, f v.z⟩

/-- Coordinates combined one by one. -/
def zipWith {γ : Type} (f : α → β → γ) (u : Vec3 α) (v : Vec3 β) : Vec3 γ :=
  ⟨f u.x v.x, f u.y v.y, f u.z v.z⟩

instance [Add α] : Add (Vec3 α) := ⟨zipWith (· + ·)⟩

instance [Sub α] : Sub (Vec3 α) := ⟨zipWith (· - ·)⟩

/-- Every coordinate times `k`. -/
def scale [Mul α] (v : Vec3 α) (k : α) : Vec3 α := v.map (· * k)

/-- The inner product. -/
def dot [Add α] [Mul α] (u v : Vec3 α) : α := u.x * v.x + u.y * v.y + u.z * v.z

/-- The outer product, a normal of the plane of both vectors. -/
def cross [Sub α] [Mul α] (u v : Vec3 α) : Vec3 α :=
  ⟨u.y * v.z - u.z * v.y, u.z * v.x - u.x * v.z, u.x * v.y - u.y * v.x⟩

/-- The point with the fourth coordinate one. -/
def homogeneous [One α] (v : Vec3 α) : Vec4 α := ⟨v.x, v.y, v.z, 1⟩

end Vec3

namespace Vec4

variable {α : Type}

/-- The coordinates in order. -/
def toList (v : Vec4 α) : List α := [v.x, v.y, v.z, v.w]

/-- The inner product. -/
def dot [Add α] [Mul α] (u v : Vec4 α) : α :=
  u.x * v.x + u.y * v.y + u.z * v.z + u.w * v.w

/-- The point without its fourth coordinate, which is not divided by. -/
def cartesian (v : Vec4 α) : Vec3 α := ⟨v.x, v.y, v.z⟩

end Vec4

end Flipbook
