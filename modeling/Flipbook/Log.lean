import Flipbook.Fault

/-!
# Log messages

What the program tells about its work: each message has a level, a source and a text.
-/

namespace Flipbook

/-- How important a message is. -/
inductive LogLevel
  | debug
  | info
  | warning
  | error
  deriving DecidableEq, Repr

namespace LogLevel

/-- The name of a level. -/
def name : LogLevel → String
  | debug => "DEBUG"
  | info => "INFO"
  | warning => "WARNING"
  | error => "ERROR"

/-- The number of a level; messages pass a threshold up to it. -/
def severity : LogLevel → Int
  | debug => 10
  | info => 20
  | warning => 30
  | error => 40

/-- The threshold of a name in upper case; a name that no level has means the second level. -/
def threshold : String → Int
  | "CRITICAL" | "FATAL" => 50
  | "ERROR" => 40
  | "WARNING" | "WARN" => 30
  | "DEBUG" => 10
  | "NOTSET" => 0
  | _ => 20

end LogLevel

/-- What the program tells about its work. -/
inductive Notice
  /-- A script has been read. -/
  | loaded (count : Nat)
  /-- An animation without a name gets this one. -/
  | defaultBasename (name : String)
  /-- Nothing varies in an animation. -/
  | identicalFrames (count : Int)
  /-- Knobs that nothing has set start at zero. -/
  | knobsDeclared (names : List String)
  /-- A frame has been saved. -/
  | savingFrame (frame : Int)
  /-- All frames have been saved. -/
  | assembling
  /-- A picture has been written. -/
  | savedImage (path : String)
  /-- An animation has been written. -/
  | animation (path : String) (count : Nat)
  /-- A script has been carried out. -/
  | rendered (count : Int) (basename : String)
  /-- A script has failed. -/
  | failed (message : String)

namespace Notice

/-- The level of a notice. -/
def level : Notice → LogLevel
  | loaded _ | knobsDeclared _ | savedImage _ | rendered .. => .debug
  | defaultBasename _ | savingFrame _ | assembling | animation .. => .info
  | identicalFrames _ => .warning
  | failed _ => .error

/-- The part of the program that gives a notice. -/
def source : Notice → String
  | loaded _ => "mdl.loader"
  | defaultBasename _ | identicalFrames _ => "engine.animation.config"
  | knobsDeclared _ | savingFrame _ | assembling => "engine.runtime.driver"
  | savedImage _ => "engine.export.image"
  | animation .. => "engine.export.animation"
  | rendered .. | failed _ => "api.cli"

/-- The text of a notice. -/
def text : Notice → String
  | loaded count => "loaded " ++ count.repr ++ " operations"
  | defaultBasename name => "Basename set to \"" ++ name ++ "\" by default..."
  | identicalFrames count => "Generating " ++ toString count ++ " identical frames..."
  | knobsDeclared names => "knobs initialised to 0: " ++ ", ".intercalate names
  | savingFrame frame => "Saving frame " ++ toString frame ++ "..."
  | assembling => "Generating animation..."
  | savedImage path => "saved image " ++ path
  | animation path count => "animation " ++ path ++ " (" ++ count.repr ++ " frames)"
  | rendered count basename =>
    "rendered " ++ toString count ++ " frame(s) basename=" ++ Text.quoted basename
  | failed message => message

/-- The text holds no number that is too long to be written. -/
def isWritable : Notice → Bool
  | loaded count | animation _ count => Text.isWritable count
  | identicalFrames count | savingFrame count | rendered count _ => Text.isWritable count
  | defaultBasename _ | knobsDeclared _ | assembling | savedImage _ | failed _ => true

end Notice

/-- A message as it is written. -/
structure LogLine where
  level : LogLevel
  source : String
  text : String
  deriving DecidableEq, Repr

namespace LogLine

/-- The message of a notice.  One that cannot be written is lost. -/
def ofNotice? (n : Notice) : Option LogLine :=
  if n.isWritable then some ⟨n.level, n.source, n.text⟩ else none

/-- The message of an operation with these values that is carried out for a frame.  One that cannot
be written is lost. -/
def ofStep? (frame : Int) (op : Opcode) (values : List Value) : Option LogLine :=
  if Text.isWritable frame && values.all Value.isWritable then
    some ⟨.debug, "engine.runtime.interpreter",
      "frame " ++ toString frame ++ ": " ++ op.describe values⟩
  else none

/-- A message on one line. -/
def render (l : LogLine) : String := "[" ++ l.level.name ++ "] " ++ l.source ++ ": " ++ l.text

/-- The message passes a threshold. -/
def passes (threshold : Int) (l : LogLine) : Bool := threshold ≤ l.level.severity

end LogLine

end Flipbook
