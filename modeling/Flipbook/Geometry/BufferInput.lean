import Flipbook.Geometry.Buffer

/-!
# Buffers from values

Buffers are asked for by the names of their kinds, and points are given as nested lists of numbers.
What does not fit the kind of a buffer is refused before its points are looked at.
-/

namespace Flipbook

namespace BufferKind

/-- The kind of a name.  A collection cannot even be looked up. -/
def ofValue : Value → Except Fault BufferKind
  | .str "edges" => .ok edges
  | .str "polygons" => .ok polygons
  | .list _ | .set _ | .map _ => .error (.conversion .wrongKind)
  | v => .error (Fault.geometry (.unknownKind v)).raised

end BufferKind

namespace GeometryBuffer

/-- The empty buffer of a kind with the room asked for. -/
def ofValues {α : Type} [Zero α] (kind capacity : Value) : Except Fault (GeometryBuffer α) := do
  let kind ← BufferKind.ofValue kind
  return withCapacity kind (← Fault.ofConversion capacity.toInt)

variable (b : GeometryBuffer Float)

/-- Adds points. -/
def extendValue (v : Value) : Outcome (GeometryBuffer Float) :=
  .given b (Fault.ofConversion (NumArray.ofValue v)) b.extend

/-- Adds the ends of one edge. -/
def addEdge (p q : Value) : Outcome (GeometryBuffer Float) :=
  match b.kind with
  | .edges => b.extendValue (.list [p, q])
  | .polygons => .failed b (.geometry .edgeAmongPolygons)

/-- Adds the corners of one polygon. -/
def addPolygon (p q r : Value) : Outcome (GeometryBuffer Float) :=
  match b.kind with
  | .polygons => b.extendValue (.list [p, q, r])
  | .edges => .failed b (.geometry .polygonAmongEdges)

end GeometryBuffer

end Flipbook
