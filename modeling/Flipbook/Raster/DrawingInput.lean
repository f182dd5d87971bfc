import Flipbook.Geometry.BufferInput
import Flipbook.Raster.Wireframe

/-!
# Drawing from values

What is drawn may be given as nested lists of numbers.  Where there is nothing to draw, colours and
directions are not looked at.
-/

namespace Flipbook

namespace Picture

/-- The picture of a size that is filled with a background; without one it is black. -/
def ofBackground (size : Nat) : Value → Except Fault Picture
  | .null => .ok (.solid size size .black)
  | v => do filled size (← Fault.ofConversion (backgroundOfValue v))

end Picture

namespace Rgb

/-- The colour of each of `count` segments. -/
def rowsOfValue (color : Value) (count : Int) : Except Fault (List Rgb) := do
  let channels ← Fault.ofConversion (NumArray.ofValue color)
  match if count < 0 then none else rows? channels count.toNat with
  | some rows => return rows
  | none => throw .shapeMismatch

end Rgb

namespace Triangle

/-- A direction. -/
def directionOfValue (v : Value) : Except Fault (Vec3 Float) := do
  match Vec3.ofArray? (← Fault.ofConversion (NumArray.ofValue v)) with
  | some d => return d
  | none => throw .shapeMismatch

/-- Which triangles are seen from outside by a viewer in a direction. -/
def facingOfValues (triangles view : Value) : Except Fault (List Bool) := do
  let corners ← Fault.ofConversion (NumArray.ofValue triangles)
  match ofCorners (GeometryBuffer.triples corners.entries.toList) with
  | [] => return []
  | ts => do
    let view ← directionOfValue view
    return ts.map (facing view)

end Triangle

namespace Wireframe

/-- The points of a buffer that is filled with values. -/
def positionsOfValue (kind : BufferKind) (points : Value) : Except Fault (List (Vec3 Float)) := do
  return (← ((GeometryBuffer.empty kind).extendValue points).result).cartesian.toList

/-- Draws edges. -/
def drawLineOfValues (points color : Value) (canvas : Canvas Float) :
    Except Fault (Canvas Float) := do
  match ← positionsOfValue .edges points with
  | [] => return canvas
  | ps => drawColored (← Fault.ofConversion (NumArray.ofValue color)) ps canvas

/-- Draws the outlines of those triangles that face the viewer. -/
def drawSolidOfValues (points view : Value) (constants : Constants Float)
    (canvas : Canvas Float) : Except Fault (Canvas Float) := do
  match ← positionsOfValue .polygons points with
  | [] => return canvas
  | ps => drawSolid (← Triangle.directionOfValue view) constants ps canvas

end Wireframe

end Flipbook
