import Flipbook.Geometry.Fault
import Flipbook.Numeric.NumArray
import Flipbook.Output.Fault
import Flipbook.Registry
import Flipbook.Script.Fault
import Flipbook.Script.SymbolTable
import Flipbook.Yaml.Fault

/-!
# Everything that can go wrong

A `Fault` is the reason why an operation of the library has no result.  Faults that a user can do
something about carry a message.
-/

namespace Flipbook

/-- Why there is no result. -/
inductive Fault
  /-- A value is not converted. -/
  | conversion (f : ConversionFault)
  /-- A scalar of a text has no value of its kind. -/
  | scalar (f : Yaml.ScalarFault)
  /-- Arrays do not fit together. -/
  | shapeMismatch
  /-- Geometry is refused. -/
  | geometry (f : GeometryFault)
  /-- A document is no script. -/
  | script (f : ScriptFault)
  /-- A registry refuses a request. -/
  | registry (f : RegistryFault)
  /-- A knob varies, and the script gives no number of frames. -/
  | missingFrameCount
  /-- A knob varies over frames that the animation does not have. -/
  | frameRange (knob : String) (startFrame endFrame frameCount : Int)
  /-- The animation has no frame of this number. -/
  | noSuchFrame
  /-- A range of frames has the length zero. -/
  | divisionByZero
  /-- The coordinate system that everything stands in is left. -/
  | stackUnderflow (depth : Nat)
  /-- Nothing has this name. -/
  | unknownSymbol (kind : SymbolKind) (name : String)
  /-- A value that is no text is looked up like a name. -/
  | unknownKey (kind : SymbolKind) (key : Value)
  /-- Something that is no operation is carried out. -/
  | foreignOperation (v : Value)
  /-- Something that is no function is registered as a shape. -/
  | notFunction (v : Value)
  /-- An array of this shape is no picture. -/
  | pictureShape (shape : List Nat)
  /-- A file is not read or written. -/
  | file (f : FileFault)

namespace Fault

/-- The message of a script that varies knobs and has no frames. -/
def missingFramesMessage : String := "Please specify number of frames!"

/-- The message of leaving the outermost coordinate system. -/
def underflowMessage (depth : Int) : String :=
  "pop on origin stack with depth " ++ toString depth ++ ": the base frame cannot be removed"

/-- The message of a name, as it looks in messages, that nothing has. -/
def unknownMessage (kind name : String) : String := "unknown " ++ kind ++ ": " ++ name

/-- The message of a range outside the animation; the knob is as it looks in messages. -/
def rangeMessage (knob : String) (startFrame endFrame frameCount : Int) : String :=
  "vary " ++ knob ++ ": frames " ++ toString startFrame ++ ".." ++ toString endFrame
    ++ " outside 0.." ++ toString (frameCount - 1)

/-- The message of a fault, where it has one. -/
def message? : Fault → Option String
  | geometry f => some f.message
  | script f => some f.message
  | registry f => some f.message
  | missingFrameCount => some missingFramesMessage
  | frameRange knob startFrame endFrame frameCount =>
    some (rangeMessage (Text.quoted knob) startFrame endFrame frameCount)
  | stackUnderflow depth => some (underflowMessage depth)
  | unknownSymbol kind name => some (unknownMessage kind.name (Text.quoted name))
  | unknownKey kind key => some (unknownMessage kind.name key.display)
  | foreignOperation v => some ("未知の操作: " ++ v.display)
  | notFunction v => some ("@shape は関数のみ登録可能です: got " ++ v.display)
  | pictureShape shape => some ("画像は (H, W, 3) である必要があります: " ++ showShape shape)
  | file f => f.message?
  | conversion _ | scalar _ | shapeMismatch | noSuchFrame | divisionByZero => none

/-- The message holds no number that is too long to be written. -/
def isWritable : Fault → Bool
  | geometry f => f.isWritable
  | script f => f.isWritable
  | frameRange _ startFrame endFrame frameCount =>
    Text.isWritable startFrame && Text.isWritable endFrame && Text.isWritable (frameCount - 1)
  | unknownKey _ key => key.isWritable
  | foreignOperation v | notFunction v => v.isWritable
  | _ => true

/-- What comes of a fault: the message is written first, and where it cannot be, that is what goes
wrong. -/
def raised (f : Fault) : Fault := if f.isWritable then f else .conversion .tooManyDigits

/-- The fault is one that the program itself foresees in a script and reports to its user. -/
def isReported : Fault → Bool
  | script _ | missingFrameCount | frameRange .. | stackUnderflow _ | unknownSymbol ..
  | unknownKey .. => true
  | _ => false

end Fault

/-- A conversion, with its failure as a fault. -/
def Fault.ofConversion {β : Type} (x : Except ConversionFault β) : Except Fault β :=
  x.mapError .conversion

/-- A step of geometry, with its failure as a fault. -/
def Fault.ofGeometry {β : Type} (x : Except GeometryFault β) : Except Fault β :=
  x.mapError fun f => (Fault.geometry f).raised

/-- A request to a registry, with its failure as a fault. -/
def Fault.ofRegistry {β : Type} (x : Except RegistryFault β) : Except Fault β :=
  x.mapError .registry

end Flipbook
