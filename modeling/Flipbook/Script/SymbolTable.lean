import Flipbook.OrderedMap
import Flipbook.Script.Material

/-!
# Symbols

The values of knobs and the materials that a script refers to by name.
-/

namespace Flipbook

/-- What a name stands for. -/
inductive SymbolKind
  | knob
  | constants
  deriving DecidableEq, Repr

namespace SymbolKind

/-- The kind as it is called in messages. -/
def name : SymbolKind → String
  | knob => "knob"
  | constants => "constants"

end SymbolKind

/-- Knobs and materials by name, in the order in which they were set first. -/
structure SymbolTable (α : Type) where
  knobs : OrderedMap String α
  constants : OrderedMap String (Constants α)

namespace SymbolTable

variable {α : Type}

/-- The table without symbols. -/
def empty : SymbolTable α := ⟨.empty, .empty⟩

/-- The value of a knob. -/
def knob? (t : SymbolTable α) (name : String) : Option α := t.knobs.get? name

/-- Sets a knob. -/
def setKnob (t : SymbolTable α) (name : String) (value : α) : SymbolTable α :=
  { t with knobs := t.knobs.insert name value }

/-- The material of a name. -/
def constants? (t : SymbolTable α) (name : String) : Option (Constants α) := t.constants.get? name

/-- Names a material. -/
def setConstants (t : SymbolTable α) (name : String) (c : Constants α) : SymbolTable α :=
  { t with constants := t.constants.insert name c }

end SymbolTable

end Flipbook
