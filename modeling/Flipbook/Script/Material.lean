import Flipbook.Geometry.Vector

/-!
# Materials

How much light a surface sends back, for each of the three colour channels.
-/

namespace Flipbook

/-- How one channel reflects light. -/
structure Reflection (α : Type) where
  ambient : α
  diffuse : α
  specular : α
  deriving DecidableEq, BEq, Repr

namespace Reflection

/-- The reflection with the three given numbers. -/
def ofVec3 {α : Type} (v : Vec3 α) : Reflection α := ⟨v.x, v.y, v.z⟩

/-- The three numbers in order. -/
def toList {α : Type} (r : Reflection α) : List α := [r.ambient, r.diffuse, r.specular]

end Reflection

/-- How a surface reflects light. -/
structure Constants (α : Type) where
  red : Reflection α
  green : Reflection α
  blue : Reflection α
  deriving DecidableEq, BEq, Repr

namespace Constants

variable {α : Type}

/-- The material that reflects all channels alike. -/
def uniform (r : Reflection α) : Constants α := ⟨r, r, r⟩

/-- The ambient parts of the three channels. -/
def ambient (c : Constants α) : Vec3 α := ⟨c.red.ambient, c.green.ambient, c.blue.ambient⟩

/-- The diffuse parts of the three channels. -/
def diffuse (c : Constants α) : Vec3 α := ⟨c.red.diffuse, c.green.diffuse, c.blue.diffuse⟩

/-- The specular parts of the three channels. -/
def specular (c : Constants α) : Vec3 α := ⟨c.red.specular, c.green.specular, c.blue.specular⟩

/-- The material of surfaces for which none is named. -/
def white : Constants Float := uniform ⟨0.1, 0.5, 0.5⟩

end Constants

end Flipbook
