import Flipbook.Shape.Catalog

/-!
# Calls of a buffer

What can be asked of a buffer once it exists: to add points, an edge or a polygon, to be
transformed or cleared, and to take in a shape of the catalogue.  Every call changes the buffer in
place or is refused.
-/

namespace Flipbook

/-- What is given for an array: a nested sequence of numbers, or an array outright. -/
inductive ArrayInput
  | value (v : Value)
  | array (a : NumArray Float)

/-- The array that is given. -/
def ArrayInput.read : ArrayInput → Except Fault (NumArray Float)
  | value v => Fault.ofConversion (NumArray.ofValue v)
  | array a => .ok a

/-- A call of a buffer. -/
inductive BufferCall
  /-- Adds points. -/
  | extend (points : ArrayInput)
  /-- Adds the ends of one edge. -/
  | addEdge (p q : Value)
  /-- Adds the corners of one polygon. -/
  | addPolygon (p q r : Value)
  /-- Transforms every point. -/
  | apply (matrix : ArrayInput)
  /-- Removes all points. -/
  | clear
  /-- Adds a shape of the catalogue. -/
  | build (name : Value) (steps : Int) (params : Parameters)

namespace BufferCall

/-- A call, carried out in place. -/
def perform : BufferCall → GeometryBuffer Float → Outcome (GeometryBuffer Float)
  | extend points, b => .given b points.read b.extend
  | addEdge p q, b => b.addEdge p q
  | addPolygon p q r, b => b.addPolygon p q r
  | apply matrix, b => .given b matrix.read b.applyArray
  | clear, b => .done b.clear
  | build name steps params, b =>
    (ShapeCatalog.standard.build name steps params (some b)).outcome b

/-- The buffer after calls one after the other, whether they are refused or not. -/
def run (calls : List BufferCall) (b : GeometryBuffer Float) : GeometryBuffer Float :=
  calls.foldl (fun b call => (call.perform b).state) b

end BufferCall

end Flipbook
