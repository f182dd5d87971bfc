import Flipbook.Registry
import Flipbook.Shape.Builder

/-!
# The catalogue of shapes

Shapes are built by name.  A catalogue starts with the four shapes that scripts have operations
for, and takes in others under names that are free.
-/

namespace Flipbook

/-- A shape with the name that it brings along. -/
structure NamedShape where
  /-- Tells shapes apart that are called alike. -/
  serial : Nat
  name : String
  build : ShapeBuilder

/-- Two shapes are one if they have the same serial number. -/
instance : BEq NamedShape := ⟨fun a b => a.serial == b.serial⟩

/-- Shapes by name. -/
abbrev ShapeCatalog := Registry NamedShape

namespace ShapeCatalog

/-- The shapes that scripts have operations for. -/
def primitives : List NamedShape := [
  ⟨0, "box", ShapeBuilder.box⟩, ⟨1, "line", ShapeBuilder.line⟩,
  ⟨2, "sphere", ShapeBuilder.sphere⟩, ⟨3, "torus", ShapeBuilder.torus⟩]

/-- The catalogue of those shapes. -/
def standard : ShapeCatalog := ⟨.ofList (primitives.map fun s => (s.name, s))⟩

/-- Takes in a shape under a name, or under the name that it brings along. -/
def add (c : ShapeCatalog) (name : Value) (s : NamedShape) : Except Fault ShapeCatalog :=
  Fault.ofRegistry (c.register name s.name s)

/-- A name that is given without saying that it is one: only a text counts. -/
def positionalName : Value → Value
  | .str s => .str s
  | _ => .null

/-- The shape of a name. -/
def find (c : ShapeCatalog) (name : Value) : Except Fault NamedShape :=
  Fault.ofRegistry (c.get name)

/-- The names of all shapes in alphabetical order. -/
def listed (c : ShapeCatalog) : List String := c.names.mergeSort fun a b => decide (a ≤ b)

/-- A parameter repeats what is given apart from the parameters: the name of the shape, or the
buffer to add to. -/
def isAmbiguous (params : Parameters) (into : Option (GeometryBuffer Float)) : Bool :=
  (Value.lookup params (.str "kind")).isSome
    || into.isSome && (Value.lookup params (.str "into")).isSome

/-- Builds the shape of a name. -/
def build (c : ShapeCatalog) (name : Value) (steps : Int) (params : Parameters)
    (into : Option (GeometryBuffer Float)) : Built :=
  if isAmbiguous params into then ⟨into, .error (.conversion .wrongKind)⟩
  else match c.find name with
    | .ok shape => shape.build steps params into
    | .error f => ⟨into, .error f⟩

end ShapeCatalog

end Flipbook
