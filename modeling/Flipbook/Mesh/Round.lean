import Flipbook.Mesh.Triangulation

/-!
# Spheres and tori

Both are grids over two angles.  The rows of a sphere turn about the first axis and its columns run
from pole to pole; the rows of a torus turn about the second axis and its columns around the tube.
-/

namespace Flipbook.Mesh

variable {α : Type}

/-- The points of a grid, row by row. -/
def gridPoints (rows columns : Nat) (point : Nat → Nat → Vec3 α) : Array (Vec3 α) :=
  ((List.range rows).flatMap fun i => (List.range columns).map (point i)).toArray

section Points

variable [Add α] [Mul α] [Div α] [NatCast α] [Circular α]

/-- The angle of step `i` of a full turn in `steps` steps. -/
def turnAngle (steps i : Nat) : α := ((2 : Nat) : α) * Circular.pi * (i : α) / (steps : α)

/-- The angle of step `j` of half a turn in `steps` steps. -/
def halfTurnAngle (steps j : Nat) : α := Circular.pi * (j : α) / (steps : α)

/-- The point of a sphere in row `i` and column `j`. -/
def spherePoint (centre : Vec3 α) (radius : α) (steps i j : Nat) : Vec3 α :=
  let phi : α := turnAngle steps i
  let theta : α := halfTurnAngle steps j
  ⟨radius * Circular.cos theta + centre.x,
    radius * Circular.sin theta * Circular.cos phi + centre.y,
    radius * Circular.sin theta * Circular.sin phi + centre.z⟩

/-- The point of a torus in row `i` and column `j`. -/
def torusPoint [Neg α] (centre : Vec3 α) (tube ring : α) (steps i j : Nat) : Vec3 α :=
  let phi : α := turnAngle steps i
  let theta : α := turnAngle steps j
  let reach := tube * Circular.cos theta + ring
  ⟨Circular.cos phi * reach + centre.x, tube * Circular.sin theta + centre.y,
    -Circular.sin phi * reach + centre.z⟩

end Points

/-- How the grid of a sphere is cut. -/
def sphereTriangulation (steps : Nat) : Triangulation := ⟨steps, steps + 1, false, true, false⟩

/-- How the grid of a torus is cut.  Its parameters run inward, so the triangles are flipped. -/
def torusTriangulation (steps : Nat) : Triangulation := ⟨steps, steps, true, false, true⟩

/-- The number of steps that a curved surface is divided into, at least three. -/
def checkedSteps (steps : Int) : Except GeometryFault Nat :=
  if steps < 3 then .error (.tooFewSteps steps) else .ok steps.toNat

variable [Add α] [Mul α] [Div α] [NatCast α] [Circular α]

/-- The triangles of a sphere. -/
def sphere (centre : Vec3 α) (radius : α) (steps : Nat) : Array (Vec3 α) :=
  (sphereTriangulation steps).mesh
    (gridPoints steps (steps + 1) (spherePoint centre radius steps))

/-- The triangles of a torus. -/
def torus [Neg α] (centre : Vec3 α) (tube ring : α) (steps : Nat) : Array (Vec3 α) :=
  (torusTriangulation steps).mesh (gridPoints steps steps (torusPoint centre tube ring steps))

end Flipbook.Mesh
