import Flipbook.Geometry.BufferInput
import Flipbook.Mesh.Box
import Flipbook.Mesh.Round

/-!
# Shapes from parameters

A builder makes a shape from named parameters and adds it to a buffer.  Parameters that are missing
have defaults, and parameters that a shape does not have are left alone.  The buffer that is added
to may be given; then it is changed in place, and it is also what the builder returns.
-/

namespace Flipbook

/-- Named parameters. -/
abbrev Parameters := List (Scalar × Value)

/-- What a builder leaves behind. -/
structure Built where
  /-- The buffer that was given, as it is afterwards. -/
  given? : Option (GeometryBuffer Float)
  /-- The buffer with the shape. -/
  result : Except Fault (GeometryBuffer Float)

/-- The outcome for the buffer that was given. -/
def Built.outcome (built : Built) (given : GeometryBuffer Float) :
    Outcome (GeometryBuffer Float) where
  state := built.given?.getD given
  fault? := match built.result with
    | .ok _ => none
    | .error f => some f

/-- What makes a shape: from the steps that curved surfaces are divided into where nothing else is
said, the parameters, and the buffer to add to, a new one where there is none. -/
abbrev ShapeBuilder :=
  (steps : Int) → Parameters → Option (GeometryBuffer Float) → Built

namespace Parameters

variable (params : Parameters)

/-- An array of numbers. -/
def array (name : String) (fallback : Vec3 Float) : Except Fault (NumArray Float) :=
  match Value.lookup params (.str name) with
  | none => .ok (.vector fallback.toList)
  | some v => Fault.ofConversion (NumArray.ofValue v)

/-- A number in any form. -/
def number (name : String) (fallback : Float) : Except Fault Float :=
  match Value.lookup params (.str name) with
  | none => .ok fallback
  | some v => Fault.ofConversion v.toFloat

/-- A coordinate: a number or a truth value, but no text. -/
def coordinate : Value → Except ConversionFault Float
  | v@(.int _) | v@(.float _) | v@(.bool _) => v.toFloat
  | .str _ => .error .noArithmetic
  | _ => .error .wrongKind

/-- A point, whose coordinates are counted before they are read. -/
def point (name : String) (fallback : Vec3 Float) : Except Fault (Vec3 Float) :=
  match Value.lookup params (.str name) with
  | none => .ok fallback
  | some v => Fault.ofConversion do
    let [x, y, z] ← v.elements | throw .malformed
    return ⟨← coordinate x, ← coordinate y, ← coordinate z⟩

/-- The number of steps, at least three. -/
def steps (fallback : Int) : Except Fault Nat := do
  let n ← match Value.field params "step" with
    | .null => .ok fallback
    | v => Fault.ofConversion v.toInt
  Fault.ofGeometry (Mesh.checkedSteps n)

end Parameters

namespace ShapeBuilder

/-- The buffer to add to, which must be of the kind of the shape.  A parameter cannot stand for
it. -/
def target (kind : BufferKind) (params : Parameters) :
    Option (GeometryBuffer Float) → Except Fault (GeometryBuffer Float)
  | none => match Value.field params "into" with
    | .null => .ok (.empty kind)
    | _ => .error (.conversion .noMapping)
  | some b => if b.kind = kind then .ok b else .error (.geometry (.otherBuffer kind b.kind))

section Adding

variable {β γ : Type} (kind : BufferKind) (first : Parameters → Except Fault β)
  (second : Parameters → β → Except Fault γ)

/-- The target, and what is read from the parameters: the first part before the target is looked at
and the second part after it. -/
def prepared (params : Parameters) (into : Option (GeometryBuffer Float)) :
    Except Fault (GeometryBuffer Float × γ) := do
  let early ← first params
  let buffer ← target kind params into
  return (buffer, ← second params early)

/-- Adds to the target what is read from the parameters. -/
def adding (add : γ → GeometryBuffer Float → Outcome (GeometryBuffer Float)) (params : Parameters)
    (into : Option (GeometryBuffer Float)) : Built :=
  match prepared kind first second params into with
  | .error f => ⟨into, .error f⟩
  | .ok (buffer, c) => ⟨into.map fun _ => (add c buffer).state, (add c buffer).result⟩

end Adding

/-- The corners of a box as an array of zeros and ones. -/
def unitCorners : NumArray Float :=
  ⟨[Mesh.boxCorners.length, 3],
    (Mesh.boxCorners.flatMap fun c => (Mesh.BoxCorner.unit c).toList).toArray⟩

/-- Two arrays combined entry by entry. -/
def combine (f : Float → Float → Float) (a b : NumArray Float) : Except Fault (NumArray Float) :=
  match NumArray.zipWith? f a b with
  | some c => .ok c
  | none => .error .shapeMismatch

/-- A box from a corner `d0` and an extent `d1`, each of which may be an array that is repeated as
often as needed. -/
def box : ShapeBuilder := fun _ =>
  adding .polygons
    (fun params => do
      let corner ← params.array "d0" ⟨0, 0, 0⟩
      let extent ← params.array "d1" ⟨1, 1, 1⟩
      return (corner, ← combine (· * ·) extent (.vector (Mesh.boxDirection : Vec3 Float).toList)))
    (fun _ (corner, extent) => do
      combine (· + ·) corner (← combine (· * ·) unitCorners extent))
    fun corners buffer => buffer.extend corners

/-- A line from `p0` to `p1`. -/
def line : ShapeBuilder := fun _ =>
  let point (params : Parameters) (name : String) (fallback : Vec3 Float) : Value :=
    (Value.lookup params (.str name)).getD (.list (fallback.toList.map Value.float))
  adding .edges (fun _ => .ok ())
    (fun params _ => .ok (point params "p0" ⟨0, 0, 0⟩, point params "p1" ⟨1, 0, 0⟩))
    fun (p, q) buffer => buffer.addEdge p q

/-- A sphere with the centre `d` and the radius `r`. -/
def sphere : ShapeBuilder := fun defaultSteps =>
  adding .polygons (·.steps defaultSteps)
    (fun params steps => do
      let radius ← params.number "r" 1
      let centre ← params.point "d" ⟨0, 0, 0⟩
      return Mesh.sphere centre radius steps)
    fun mesh buffer => buffer.addVertices mesh

/-- A torus with the centre `d`, the radius `r0` of the tube and the radius `r1` of the ring. -/
def torus : ShapeBuilder := fun defaultSteps =>
  adding .polygons (·.steps defaultSteps)
    (fun params steps => do
      let tube ← params.number "r0" 0.25
      let ring ← params.number "r1" 1
      let centre ← params.point "d" ⟨0, 0, 0⟩
      return Mesh.torus centre tube ring steps)
    fun mesh buffer => buffer.addVertices mesh

end ShapeBuilder

end Flipbook
