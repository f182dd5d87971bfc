import Flipbook.Outcome
import Flipbook.Raster.Wireframe

/-!
# Rasterizers

What draws transformed geometry on a canvas: wire frames, or nothing at all.
-/

namespace Flipbook

/-- What draws.  It may stop half-way and leave a changed canvas. -/
structure Rasterizer (α : Type) where
  /-- Draws triangles of a material. -/
  drawSolid : Scene α → Array (Vec4 α) → Constants α → Canvas α → Outcome (Canvas α)
  /-- Draws lines. -/
  drawLine : Scene α → Array (Vec4 α) → Canvas α → Outcome (Canvas α)

namespace Rasterizer

variable {α : Type}

/-- The points of a buffer in space, in order. -/
def positions (points : Array (Vec4 α)) : List (Vec3 α) := points.toList.map Vec4.cartesian

/-- Draws wire frames. -/
def wireframe [Zero α] [Add α] [Sub α] [Mul α] [Div α] [Neg α] [NatCast α] [LT α]
    [DecidableLT α] [Floor α] [OfInteger α] : Rasterizer α where
  drawSolid scene points constants canvas :=
    .ofExcept canvas (Wireframe.drawSolid scene.view constants (positions points) canvas)
  drawLine scene points canvas :=
    .ofExcept canvas (Wireframe.drawLine scene.lineColor (positions points) canvas)

/-- Draws nothing. -/
def silent : Rasterizer α where
  drawSolid _ _ _ canvas := .done canvas
  drawLine _ _ canvas := .done canvas

end Rasterizer

end Flipbook
