import Flipbook.Raster.Segment
import Flipbook.Scene

/-!
# Wire frames

Lines are drawn as they are; of a solid the outlines of those triangles that face the viewer.  The
colour of an outline is the diffuse part of the material.
-/

namespace Flipbook

/-- Three corners of a surface. -/
@[ext] structure Triangle (α : Type) where
  a : Vec3 α
  b : Vec3 α
  c : Vec3 α
  deriving DecidableEq, Repr

namespace Triangle

variable {α : Type}

/-- The triangles of a list of corners. -/
def ofCorners : List (Vec3 α) → List (Triangle α)
  | a :: b :: c :: rest => ⟨a, b, c⟩ :: ofCorners rest
  | _ => []

/-- A normal of the triangle. -/
def normal [Sub α] [Mul α] (t : Triangle α) : Vec3 α := (t.b - t.a).cross (t.c - t.a)

/-- The triangle is seen from outside by a viewer in the direction `view`. -/
def facing [Zero α] [Add α] [Sub α] [Mul α] [LT α] [DecidableLT α] (view : Vec3 α)
    (t : Triangle α) : Bool :=
  0 < t.normal.dot view

/-- The sides in order. -/
def sides (t : Triangle α) : List (Segment α) := [⟨t.a, t.b⟩, ⟨t.b, t.c⟩, ⟨t.c, t.a⟩]

end Triangle

namespace Rgb

/-- The colour of each of `count` segments, from an array of channels that is repeated as often as
needed. -/
def rows? (color : NumArray Float) (count : Nat) : Option (List Rgb) := do
  let target : NumArray Unit := .fill [count, 3] ()
  let channels ← NumArray.zipWith? (fun _ x => saturateFloat x) target color
  if channels.shape ≠ target.shape then none
  (List.range count).mapM fun i => Rgb.ofBytes? channels.entries (3 * i)
where
  /-- A float cut to a byte; no number counts as zero. -/
  saturateFloat (x : Float) : UInt8 :=
    match Numeric.Binary64.read x with
    | .nan => 0
    | .infinite negative => if negative then 0 else 255
    | r => saturate (r.trunc?.getD 0)

end Rgb

namespace Wireframe

variable {α : Type}

section Tint

variable [Sub α] [Mul α] [Div α] [NatCast α] [LT α] [DecidableLT α] [Floor α] [OfInteger α]

/-- The nearest whole number, a half to the even neighbour. -/
def roundHalfEven (a : α) : Except Fault Int :=
  match Floor.floor? a with
  | none => .error (.conversion (if Floor.isInfinite a then .outOfRange else .malformed))
  | some n => match OfInteger.ofInteger? n with
    | none => .error (.conversion .outOfRange)
    | some (whole : α) =>
      let rest := a - whole
      let half := ((1 : Nat) : α) / ((2 : Nat) : α)
      if rest < half then .ok n
      else if half < rest then .ok (n + 1)
      else .ok (if n % 2 = 0 then n else n + 1)

/-- A part of the light as a channel of a colour. -/
def channel (a : α) : Except Fault Int := roundHalfEven (a * ((255 : Nat) : α))

/-- The colour of the outlines of a material. -/
def tint (c : Constants α) : Except Fault Rgb := do
  return .saturated ⟨← channel c.diffuse.x, ← channel c.diffuse.y, ← channel c.diffuse.z⟩

end Tint

variable [Zero α] [Add α] [Sub α] [Mul α] [Div α] [Neg α] [NatCast α] [LT α] [DecidableLT α]
  [Floor α]

/-- Draws a segment in one colour. -/
def drawSegment (color : Rgb) (canvas : Canvas α) (s : Segment α) : Canvas α :=
  canvas.plotAll (s.fragments color)

/-- Draws segments in one colour, one after the other. -/
def drawSegments (color : Rgb) (canvas : Canvas α) (ss : List (Segment α)) : Canvas α :=
  ss.foldl (drawSegment color) canvas

/-- Draws edges given by their ends. -/
def drawLine (color : Vec3 Int) (points : List (Vec3 α)) (canvas : Canvas α) :
    Except Fault (Canvas α) :=
  match points with
  | [] => .ok canvas
  | points => do return drawSegments (← Rgb.ofChannels color) canvas (Segment.ofEnds points)

/-- Draws edges given by their ends, in the colours of an array of channels. -/
def drawColored (color : NumArray Float) (points : List (Vec3 α)) (canvas : Canvas α) :
    Except Fault (Canvas α) :=
  let segments := Segment.ofEnds points
  match segments, Rgb.rows? color segments.length with
  | [], _ => .ok canvas
  | _, none => .error .shapeMismatch
  | _, some colors =>
    .ok ((segments.zip colors).foldl (fun c s => drawSegment s.2 c s.1) canvas)

/-- Draws the outlines of those triangles that face the viewer. -/
def drawSolid [OfInteger α] (view : Vec3 α) (constants : Constants α) (points : List (Vec3 α))
    (canvas : Canvas α) : Except Fault (Canvas α) :=
  match (Triangle.ofCorners points).filter (·.facing view) with
  | [] => .ok canvas
  | triangles => do
    return drawSegments (← tint constants) canvas (triangles.flatMap Triangle.sides)

end Wireframe

end Flipbook
