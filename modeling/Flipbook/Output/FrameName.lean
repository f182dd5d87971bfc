import Flipbook.Output.PathName
import Flipbook.Settings
import Flipbook.Text.Digit
import Flipbook.Value.Conversion
import Flipbook.Value.Printer

/-!
# The names of frames

A frame is saved under the name of its animation with the number of the frame, in at least three
digits, and an extension.  A number that is too long to be written gives no name.
-/

namespace Flipbook

/-- A number in at least `width` characters: zeros follow the sign. -/
def Text.zeroPaddedInt (width : Nat) (n : Int) : String :=
  if n < 0 then "-" ++ Text.zeroPadded (width - 1) n.natAbs else Text.zeroPadded width n.natAbs

namespace FrameName

/-- The extension without dots before it; an empty one is replaced by the default. -/
def extension (ext defaultExt : String) : String :=
  Text.dropLeading '.' (if ext = "" then defaultExt else ext)

/-- The file name of a frame. -/
def file (basename : String) (index : Int) (ext defaultExt : String) : String :=
  basename ++ Text.zeroPaddedInt 3 index ++ "." ++ extension ext defaultExt

/-- The path name of a frame. -/
def path (directory : PathName) (basename : String) (index : Int) (ext defaultExt : String) :
    PathName :=
  directory / file basename index ext defaultExt

/-- The number of a frame, if a name can be made with it. -/
def checkedIndex (index : Int) : Except ConversionFault Int :=
  if Text.isWritable index then .ok index else .error .tooManyDigits

/-- The number of a frame that a value gives. -/
def indexOfValue : Value → Except ConversionFault Int
  | .int n => checkedIndex n
  | .bool b => .ok (if b then 1 else 0)
  | .float _ | .str _ => .error .malformed
  | _ => .error .wrongKind

/-- The extension that a value gives; without one the default is taken. -/
def extensionOfValue : Value → Except ConversionFault String
  | .str ext => .ok ext
  | v => if v.truthy then .error .noMapping else .ok ""

/-- The directory that a value gives. -/
def directoryOfValue (settings : Settings) : Value → Except ConversionFault PathName
  | .null => .ok (.ofString settings.outputDir)
  | .str directory => .ok (.ofString directory)
  | _ => .error .wrongKind

/-- The file name and the path name of a frame whose parts are given as values. -/
def ofValues (settings : Settings) (basename index ext directory : Value) :
    Except ConversionFault (String × PathName) := do
  let ext ← extensionOfValue ext
  let basename ← basename.toText
  let index ← indexOfValue index
  let directory ← directoryOfValue settings directory
  return (file basename index ext settings.imageExt,
    path directory basename index ext settings.imageExt)

end FrameName

end Flipbook
