import Flipbook.Log
import Flipbook.Raster.Canvas
import Flipbook.Script.LooseOperation

/-!
# Events

What a run does, in order: the operations it carries out, what it asks of those that draw, write
and show, and what it tells.
-/

namespace Flipbook

/-- Something that happens in a run. -/
inductive Event (α : Type)
  /-- An operation is carried out for a frame. -/
  | step (frame : Int) (op : Operation α)
  /-- An operation with unchecked fields is carried out for a frame. -/
  | looseStep (frame : Int) (op : LooseOperation)
  /-- Something is told. -/
  | notice (n : Notice)
  /-- Triangles are drawn, three points each. -/
  | solid (points : Array (Vec4 α)) (constants : Constants α)
  /-- Lines are drawn, two points each. -/
  | line (points : Array (Vec4 α))
  /-- A picture is saved. -/
  | save (picture : Picture) (filename : Value)
  /-- A picture is shown. -/
  | display (picture : Picture)
  /-- Saved frames are put together. -/
  | assemble (basename : String) (frames : List String)

namespace Event

/-- The event is something told. -/
def isMessage {α : Type} : Event α → Bool
  | step .. | looseStep .. | notice _ => true
  | _ => false

/-- The message of an event that is told. -/
def logLine? : Event Float → Option LogLine
  | step frame op => LogLine.ofStep? frame op.opcode op.fieldValues
  | looseStep frame op => LogLine.ofStep? frame op.opcode op.fieldList
  | notice n => LogLine.ofNotice? n
  | _ => none

end Event

end Flipbook
