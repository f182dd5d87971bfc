import Flipbook.OrderedMap
import Flipbook.Text.Case
import Flipbook.Value

/-!
# Registries

A registry gives objects names.  A name counts without the blanks around it, without regard to
case, and with hyphens as underscores; once it has an object it keeps it.
-/

namespace Flipbook

/-- Why a registry refuses a request. -/
inductive RegistryFault
  /-- The name is no text. -/
  | notText
  /-- Nothing is left of the name. -/
  | emptyName
  /-- The name belongs to another object. -/
  | taken (key : String)
  /-- Nothing has this name. -/
  | unknown (name : String)
  deriving DecidableEq, Repr

/-- The message of a fault. -/
def RegistryFault.message : RegistryFault → String
  | notText => "レジストリキーは str である必要があります"
  | emptyName => "レジストリキーは空であってはなりません"
  | taken key => "'" ++ key ++ "' は既に登録されています"
  | unknown name => "'" ++ name ++ "' は登録されていません"

/-- Objects by their names in normal form, in the order of registration. -/
structure Registry (β : Type) where
  entries : OrderedMap String β

namespace Registry

variable {β : Type}

/-- The registry without objects. -/
def empty : Registry β := ⟨.empty⟩

/-- The normal form of a name. -/
def normalize (name : String) : String :=
  Text.lower ((Text.trim name).map fun c => if c == '-' then '_' else c)

/-- The key that a name stands for. -/
def key? : Value → Except RegistryFault String
  | .str name =>
    let key := normalize name
    if key = "" then .error .emptyName else .ok key
  | _ => .error .notText

/-- The key under which an object is registered: that of the given name or, where there is none,
of its own name. -/
def keyFor (name : Value) (ownName : String) : Except RegistryFault String :=
  key? (if name.truthy then name else .str ownName)

/-- Registers an object under a name or, where there is none, under its own name. -/
def register [BEq β] (r : Registry β) (name : Value) (ownName : String) (object : β) :
    Except RegistryFault (Registry β) := do
  let key ← keyFor name ownName
  match r.entries.get? key with
  | some other =>
    if other == object then .ok ⟨r.entries.insert key object⟩ else .error (.taken key)
  | none => .ok ⟨r.entries.insert key object⟩

/-- The object of a name. -/
def get (r : Registry β) (name : Value) : Except RegistryFault β := do
  match r.entries.get? (← key? name), name with
  | some object, _ => .ok object
  | none, .str s => .error (.unknown s)
  | none, _ => .error .notText

/-- The name has an object. -/
def isRegistered (r : Registry β) (name : Value) : Except RegistryFault Bool := do
  return r.entries.contains (← key? name)

/-- The keys in the order of registration. -/
def names (r : Registry β) : List String := r.entries.keys

end Registry

end Flipbook
