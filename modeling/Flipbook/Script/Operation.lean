import Flipbook.Geometry.Matrix
import Flipbook.Value.Printer

/-!
# Operations

A script is a sequence of operations.  Some of them describe the animation as a whole, the others
are carried out in order for every frame.
-/

namespace Flipbook

/-- The names of operations. -/
inductive Opcode
  | frames | basename | vary | push | pop | move | scale | rotate | box | sphere | torus | line
  | save | display
  deriving DecidableEq, Repr

namespace Opcode

/-- All of them. -/
def all : List Opcode :=
  [frames, basename, vary, push, pop, move, scale, rotate, box, sphere, torus, line, save, display]

/-- The name in a script. -/
def name : Opcode → String
  | frames => "FRAMES"
  | basename => "BASENAME"
  | vary => "VARY"
  | push => "PUSH"
  | pop => "POP"
  | move => "MOVE"
  | scale => "SCALE"
  | rotate => "ROTATE"
  | box => "BOX"
  | sphere => "SPHERE"
  | torus => "TORUS"
  | line => "LINE"
  | save => "SAVE"
  | display => "DISPLAY"

/-- The operation of a name. -/
def ofName? (s : String) : Option Opcode := all.find? (·.name == s)

/-- The fields of an operation. -/
def fields : Opcode → List String
  | frames => ["num_frames"]
  | basename => ["name"]
  | vary => ["knob", "start_frame", "end_frame", "start_val", "end_val"]
  | push | pop | display => []
  | move | scale => ["d", "knob"]
  | rotate => ["axis", "degrees", "knob"]
  | box => ["d0", "d1", "constants", "cs"]
  | sphere => ["d", "r", "constants", "cs"]
  | torus => ["d", "r0", "r1", "constants", "cs"]
  | line => ["p0", "p1", "constants", "cs0", "cs1"]
  | save => ["filename"]

/-- An operation as it looks in messages: its name with a capital, and its fields with names. -/
def describe (op : Opcode) (values : List Value) : String :=
  let name := match op.name.toList with
    | [] => ""
    | c :: cs => String.ofList (c :: cs.map Char.toLower)
  let fields := op.fields.zipWith (fun f v => f ++ "=" ++ v.display) values
  name ++ bracketed "(" ")" fields

end Opcode

/-- A knob that moves from one value to another over a range of frames, both ends included. -/
structure Vary (α : Type) where
  knob : String
  startFrame : Int
  endFrame : Int
  startValue : α
  endValue : α
  deriving DecidableEq, Repr

/-- An operation with its fields.  A knob multiplies the numbers of a transformation; the names
of coordinate systems of shapes are kept and not used. -/
inductive Operation (α : Type)
  | frames (count : Int)
  | basename (name : String)
  | vary (v : Vary α)
  | push
  | pop
  | move (d : Vec3 α) (knob : Option String)
  | scale (d : Vec3 α) (knob : Option String)
  | rotate (axis : Axis) (degrees : α) (knob : Option String)
  | box (corner extent : Vec3 α) (constants system : Option String)
  | sphere (centre : Vec3 α) (radius : α) (constants system : Option String)
  | torus (centre : Vec3 α) (tube ring : α) (constants system : Option String)
  | line (start stop : Vec3 α) (constants startSystem stopSystem : Option String)
  | save (filename : String)
  | display
  deriving DecidableEq, Repr

namespace Operation

/-- The name of an operation. -/
def opcode {α : Type} : Operation α → Opcode
  | frames .. => .frames
  | basename .. => .basename
  | vary .. => .vary
  | push => .push
  | pop => .pop
  | move .. => .move
  | scale .. => .scale
  | rotate .. => .rotate
  | box .. => .box
  | sphere .. => .sphere
  | torus .. => .torus
  | line .. => .line
  | save .. => .save
  | display => .display

/-- The knob that an operation reads or sets. -/
def knob? {α : Type} : Operation α → Option String
  | vary v => some v.knob
  | move _ knob | scale _ knob | rotate _ _ knob => knob
  | _ => none

/-- The values of the fields, in the order of `Opcode.fields`. -/
def fieldValues : Operation Float → List Value
  | frames count => [.int count]
  | basename name => [.str name]
  | vary v => [.str v.knob, .int v.startFrame, .int v.endFrame, .float v.startValue,
      .float v.endValue]
  | push | pop | display => []
  | move d knob | scale d knob => [vector d, name? knob]
  | rotate axis degrees knob => [.int axis.index, .float degrees, name? knob]
  | box corner extent constants system =>
    [vector corner, vector extent, name? constants, name? system]
  | sphere centre radius constants system =>
    [vector centre, .float radius, name? constants, name? system]
  | torus centre tube ring constants system =>
    [vector centre, .float tube, .float ring, name? constants, name? system]
  | line start stop constants startSystem stopSystem =>
    [vector start, vector stop, name? constants, name? startSystem, name? stopSystem]
  | save filename => [.str filename]
where
  /-- A vector has its coordinates for elements. -/
  vector (v : Vec3 Float) : Value := .tuple (v.toList.map .float)
  /-- A name that is not given is missing. -/
  name? (name : Option String) : Value := (name.map .str).getD .null

end Operation

end Flipbook
