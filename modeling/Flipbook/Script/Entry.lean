import Flipbook.Fault
import Flipbook.Text.Case
import Flipbook.Value.Order

/-!
# Entries of a script

An entry is a mapping that names an operation and gives its fields.  `Operation.ofEntry` reads it:
the name in any case, the fields each by its kind, and nothing that is no field.
-/

namespace Flipbook

namespace Field

/-- A whole number, as such or as a float without a fraction. -/
def whole : Value → Except FieldError Int
  | .bool _ => .error FieldFault.truthValue.error
  | .int n => .ok n
  | v@(.float x) => match (Numeric.Binary64.read x).toInt? with
    | some n => .ok n
    | none => .error (FieldFault.notWhole v).error
  | v => .error (FieldFault.notWhole v).error

/-- A number of either kind. -/
def number : Value → Except FieldError Float
  | .int n => (Scalar.toFloat (.int n)).mapError .conversion
  | .float x => .ok x
  | v => .error (FieldFault.notNumber v).error

/-- A sequence of exactly three numbers. -/
def vector : Value → Except FieldError (Vec3 Float)
  | .list [x, y, z] | .tuple [x, y, z] => do return ⟨← number x, ← number y, ← number z⟩
  | v => .error (FieldFault.notTriple v).error

/-- A text that is not empty. -/
def name : Value → Except FieldError String
  | v@(.str s) => if s = "" then .error (FieldFault.noName v).error else .ok s
  | v => .error (FieldFault.noName v).error

/-- An axis by its letter, in any case and between blanks, or by its number. -/
def axis : Value → Except FieldError Axis
  | v@(.str s) => match Text.lower (Text.trim s) with
    | "x" => .ok .x
    | "y" => .ok .y
    | "z" => .ok .z
    | _ => .error (FieldFault.unknownAxis v).error
  | v => do
    match ← whole v with
    | 0 => .ok .x
    | 1 => .ok .y
    | 2 => .ok .z
    | _ => .error (FieldFault.axisOutOfRange v).error

end Field

/-- An entry that is being read: its place, its operation and its fields. -/
structure Entry where
  /-- The place in the list of operations. -/
  index : Int
  /-- The operation. -/
  op : Opcode
  /-- All entries of the mapping. -/
  fields : List (Scalar × Value)

namespace Entry

variable {β : Type} (e : Entry)

/-- A fault of the entry. -/
def fault (cause : EntryFault) : Fault := (Fault.script (.entry e.index cause)).raised

/-- The value of a field; a missing value counts as none. -/
def value? (field : String) : Option Value :=
  match Value.field e.fields field with
  | .null => none
  | v => some v

/-- Reads the value of a field. -/
def read (kind : Value → Except FieldError β) (field : String) (v : Value) : Except Fault β :=
  (kind v).mapError fun
    | .refused f => e.fault (.badField e.op field f)
    | .conversion f => .conversion f

/-- A field that must be there. -/
def required (kind : Value → Except FieldError β) (field : String) : Except Fault β :=
  match e.value? field with
  | none => .error (e.fault (.missingField e.op field))
  | some v => e.read kind field v

/-- A field that may be missing. -/
def optional (kind : Value → Except FieldError β) (field : String) : Except Fault (Option β) :=
  match e.value? field with
  | none => .ok none
  | some v => (e.read kind field v).map some

/-- The fields of the operation, read in their order. -/
def operation : Except Fault (Operation Float) :=
  let vector := e.required Field.vector
  let number := e.required Field.number
  let whole := e.required Field.whole
  let name := e.required Field.name
  let name? := e.optional Field.name
  match e.op with
  | .frames => do
    return .frames (← whole "num_frames")
  | .basename => do
    return .basename (← name "name")
  | .vary => do
    return .vary {
      knob := ← name "knob"
      startFrame := ← whole "start_frame"
      endFrame := ← whole "end_frame"
      startValue := ← number "start_val"
      endValue := ← number "end_val" }
  | .push => .ok .push
  | .pop => .ok .pop
  | .move => do
    return .move (← vector "d") (← name? "knob")
  | .scale => do
    return .scale (← vector "d") (← name? "knob")
  | .rotate => do
    return .rotate (← e.required Field.axis "axis") (← number "degrees") (← name? "knob")
  | .box => do
    return .box (← vector "d0") (← vector "d1") (← name? "constants") (← name? "cs")
  | .sphere => do
    return .sphere (← vector "d") (← number "r") (← name? "constants") (← name? "cs")
  | .torus => do
    return .torus (← vector "d") (← number "r0") (← number "r1") (← name? "constants")
      (← name? "cs")
  | .line => do
    return .line (← vector "p0") (← vector "p1") (← name? "constants") (← name? "cs0")
      (← name? "cs1")
  | .save => do
    return .save (← name "filename")
  | .display => .ok .display

/-- The keys that are neither fields of the operation nor its name. -/
def unknownKeys : List Scalar :=
  (e.fields.map (·.1)).filter fun k =>
    !(k.sameKey (.str "op") || e.op.fields.any fun f => k.sameKey (.str f))

end Entry

/-- The keys in ascending order; keys that have no order among each other are not sorted. -/
def sortedKeys? (keys : List Scalar) : Option (List Scalar) :=
  if keys.all fun a => keys.length ≤ 1 || keys.all fun b => (a.less? b).isSome then
    some (keys.mergeSort fun a b => !(b.less? a).getD false)
  else none

/-- Reads an entry at a place in the list of operations. -/
def Operation.ofEntry (entry : Value) (index : Int) : Except Fault (Operation Float) := do
  let fault (cause : EntryFault) : Fault := (Fault.script (.entry index cause)).raised
  let .map fields := entry | throw (fault (.notMapping entry))
  let .str name := Value.field fields "op" | throw (fault .noOpcode)
  let some op := Opcode.ofName? (Text.upper (Text.trim name)) | throw (fault (.unknownOpcode name))
  let e : Entry := ⟨index, op, fields⟩
  if !e.unknownKeys.isEmpty then
    match sortedKeys? e.unknownKeys with
    | some keys => throw (fault (.unknownFields op keys))
    | none => throw (.conversion .wrongKind)
  e.operation

end Flipbook
