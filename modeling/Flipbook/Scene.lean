import Flipbook.Fault
import Flipbook.Script.Material

/-!
# Scenes

What stays the same through a whole run: the direction of view, the light, the colour of lines and
the material of surfaces for which none is named.  A configuration changes any part of it.
-/

namespace Flipbook

/-- A light with its place and colour. -/
structure Light (α : Type) where
  location : Vec3 α
  color : Vec3 Int
  deriving DecidableEq, Repr

/-- The surroundings that frames are drawn in. -/
structure Scene (α : Type) where
  /-- The direction that the viewer is in. -/
  view : Vec3 α
  /-- The colour of the light from all sides. -/
  ambient : Vec3 Int
  light : Light α
  /-- The material of surfaces for which none is named. -/
  defaultConstants : Constants α
  lineColor : Vec3 Int
  deriving DecidableEq, Repr

namespace Scene

/-- The scene without a configuration. -/
def default : Scene Float where
  view := ⟨0.0, 0.0, 1.0⟩
  ambient := ⟨50, 50, 50⟩
  light := ⟨⟨0.5, 0.75, 1.0⟩, ⟨255, 255, 255⟩⟩
  defaultConstants := .white
  lineColor := ⟨255, 255, 255⟩

/-- Three values of one kind, or what stands for them where they are missing. -/
def three {β : Type} (convert : Value → Except ConversionFault β) (v : Value) (fallback : Vec3 β) :
    Except ConversionFault (Vec3 β) :=
  match v with
  | .null => .ok fallback
  | v => (v.three convert).map Vec3.ofTriple

/-- Three floats. -/
def vector (v : Value) (fallback : Vec3 Float) : Except ConversionFault (Vec3 Float) :=
  three Value.toFloat v fallback

/-- Three whole numbers. -/
def color (v : Value) (fallback : Vec3 Int) : Except ConversionFault (Vec3 Int) :=
  three Value.toInt v fallback

/-- How a channel reflects light. -/
def reflection (v : Value) (fallback : Reflection Float) :
    Except ConversionFault (Reflection Float) :=
  (vector v ⟨fallback.ambient, fallback.diffuse, fallback.specular⟩).map Reflection.ofVec3

/-- A material by channels, each of which may be missing, or by three numbers for all of them. -/
def constants (v : Value) (fallback : Constants Float) :
    Except ConversionFault (Constants Float) :=
  match v with
  | .null => .ok fallback
  | .map fields => do
    return ⟨← reflection (Value.field fields "red") fallback.red,
      ← reflection (Value.field fields "green") fallback.green,
      ← reflection (Value.field fields "blue") fallback.blue⟩
  | v => (reflection v fallback.red).map Constants.uniform

/-- The scene of a configuration. -/
def ofConfig (config : Value) : Except ConversionFault (Scene Float) := do
  let config ← config.asMappingOrEmpty
  let lightConfig ← (Value.field config "light").asMappingOrEmpty
  let location ← vector (Value.field lightConfig "location") default.light.location
  let lightColor ← color (Value.field lightConfig "color") default.light.color
  let materials ← (Value.field config "constants").asMappingOrEmpty
  return {
    view := ← vector (Value.field config "view") default.view
    ambient := ← color (Value.field config "ambient") default.ambient
    light := ⟨location, lightColor⟩
    defaultConstants := ← constants (Value.field materials "white") default.defaultConstants
    lineColor := ← color (Value.field config "line_color") default.lineColor }

end Scene

end Flipbook
