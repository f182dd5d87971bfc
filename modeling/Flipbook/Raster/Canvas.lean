import Flipbook.Raster.Picture

/-!
# Canvases

A canvas is a picture with a depth for every pixel.  A fragment is drawn where it lies nearer to
the viewer than what is there.
-/

namespace Flipbook

/-- A coloured point at a place of the screen, whose rows count from the bottom. -/
structure Fragment (α : Type) where
  column : Int
  height : Int
  depth : α
  color : Rgb
  deriving DecidableEq, Repr

/-- A picture and its depths, row by row from the top. -/
structure Canvas (α : Type) where
  picture : Picture
  depths : Array α
  deriving DecidableEq, Repr

namespace Canvas

variable {α : Type}

/-- The empty square canvas. -/
def blank [Farthest α] (size : Nat) : Canvas α :=
  ⟨.solid size size .black, Array.replicate (size * size) Farthest.farthest⟩

/-- The canvas with the whole picture in one colour. -/
def clearPicture (c : Canvas α) (color : Rgb) : Canvas α :=
  { c with picture := .solid c.picture.height c.picture.width color }

/-- The canvas with nothing in front of the background. -/
def clearDepths [Farthest α] (c : Canvas α) : Canvas α :=
  { c with depths := Array.replicate c.depths.size Farthest.farthest }

/-- Both cleared. -/
def clear [Farthest α] (c : Canvas α) : Canvas α := (c.clearPicture .black).clearDepths

/-- The place of a fragment in the rows of a picture, if it lies inside. -/
def index? (height width : Nat) (f : Fragment α) : Option Nat :=
  if 0 ≤ f.column ∧ f.column < width ∧ 0 ≤ f.height ∧ f.height < height then
    some ((height - 1 - f.height.toNat) * width + f.column.toNat)
  else none

/-- Draws a fragment, unless it lies outside or not nearer than what is there. -/
def plot [LT α] [DecidableLT α] (c : Canvas α) (f : Fragment α) : Canvas α :=
  match index? c.picture.height c.picture.width f with
  | none => c
  | some i => match c.depths[i]? with
    | none => c
    | some d =>
      if d < f.depth then
        { picture := { c.picture with pixels := c.picture.pixels.setIfInBounds i f.color }
          depths := c.depths.setIfInBounds i f.depth }
      else c

/-- Draws fragments one after the other. -/
def plotAll [LT α] [DecidableLT α] (c : Canvas α) (fs : List (Fragment α)) : Canvas α :=
  fs.foldl plot c

end Canvas

end Flipbook
