import Flipbook.Geometry.Buffer
import Flipbook.Geometry.OriginStack
import Flipbook.Raster.Canvas

/-!
# Frames

What belongs to one frame while it is drawn: the canvas, the coordinate systems and the geometry
that waits to be drawn.
-/

namespace Flipbook

/-- The state of one frame. -/
structure Frame (α : Type) where
  /-- The number of the frame. -/
  index : Int
  canvas : Canvas α
  stack : OriginStack (Matrix4 α)
  /-- Triangles that wait to be drawn. -/
  polygons : GeometryBuffer α
  /-- Lines that wait to be drawn. -/
  edges : GeometryBuffer α

namespace Frame

variable {α : Type} [Zero α] [One α] [Farthest α]

/-- The frame before anything is drawn. -/
def blank (index : Int) (size : Nat) : Frame α where
  index := index
  canvas := .blank size
  stack := .single .identity
  polygons := .empty .polygons
  edges := .empty .edges

/-- A new frame, whose size must not be negative. -/
def create (index size : Int) : Except Fault (Frame α) :=
  if size < 0 then .error (.conversion .malformed) else .ok (blank index size.toNat)

/-- The frame prepared to be drawn again under another number. -/
def reset (f : Frame α) (index : Int) : Frame α where
  index := index
  canvas := f.canvas.clear
  stack := .single .identity
  polygons := f.polygons.clear
  edges := f.edges.clear

end Frame

end Flipbook
