import Flipbook.Shape.BufferCall
import Flipbook.Stage.Interpreter

/-!
# Sessions

In a session an interpreter is given one thing after the other to carry out, and goes on after what
has stopped.  It may be given operations of a script, operations with unchecked fields and things
that are no operations at all.

The fields of an operation are read one after the other in the order of their use, so that the
first that does not do is what stops it.
-/

namespace Flipbook

namespace Value

/-- A number that can be multiplied by another, which texts are not. -/
def asNumber : Value → Except ConversionFault Float
  | v@(.int _) | v@(.float _) | v@(.bool _) => v.toFloat
  | _ => .error .wrongKind

/-- Exactly three numbers times `k`; their count is looked at first. -/
def scaledVector (k : Float) (v : Value) : Except ConversionFault (Vec3 Float) := do
  let [x, y, z] ← v.elements | throw .malformed
  return ⟨(← x.asNumber) * k, (← y.asNumber) * k, (← z.asNumber) * k⟩

end Value

/-- The axis of a value; every value but zero and one means the third axis. -/
def Axis.ofValue : Value → Axis
  | .scalar s => .ofIndex (s.wholeKey?.getD 2)
  | _ => .z

/-- What a value stands for as a symbol.  Only texts are names of symbols. -/
def SymbolKind.resolve {β : Type} (kind : SymbolKind) (get? : String → Option β) :
    Value → Except Fault β
  | .str name => match get? name with
    | some b => .ok b
    | none => .error (.unknownSymbol kind name)
  | key =>
    .error (if key.isKey then (Fault.unknownKey kind key).raised else .conversion .wrongKind)

namespace Interpreter

variable {σ : Type} (I : Interpreter Float σ)

/-- The number that the knob of a value multiplies by; one for a missing value. -/
def factorOfValue (symbols : SymbolTable Float) : Value → Except Fault Float
  | .null => .ok 1
  | name => SymbolKind.knob.resolve symbols.knob? name

/-- The material of a value; the default one for a missing value. -/
def materialOfValue (symbols : SymbolTable Float) : Value → Except Fault (Constants Float)
  | .null => .ok I.scene.defaultConstants
  | name => SymbolKind.constants.resolve symbols.constants? name

/-- The matrix that is made of the vector of an operation. -/
def looseMatrix (matrix : Vec3 Float → Matrix4 Float) (symbols : SymbolTable Float)
    (op : LooseOperation) : Except Fault (Matrix4 Float) := do
  let k ← factorOfValue symbols (op.field "knob")
  return matrix (← Fault.ofConversion ((op.field "d").scaledVector k))

/-- The matrix of a turn. -/
def looseTurn (symbols : SymbolTable Float) (op : LooseOperation) :
    Except Fault (Matrix4 Float) := do
  let degrees ← Fault.ofConversion (op.field "degrees").asNumber
  let k ← factorOfValue symbols (op.field "knob")
  return .rotation (.ofValue (op.field "axis")) (degrees * Circular.degree * k)

/-- Adds the shape of an operation to a buffer. -/
def looseShape (shape : String) (fields : List String) (op : LooseOperation)
    (b : GeometryBuffer Float) : Outcome (GeometryBuffer Float) :=
  (BufferCall.build (.str shape) I.steps (op.parameters fields)).perform b

/-- Draws the solid of an operation. -/
def drawLooseSolid (shape : String) (fields : List String) (symbols : SymbolTable Float)
    (op : LooseOperation) (s : Stage Float σ) : Outcome (Stage Float σ) :=
  .given s (I.materialOfValue symbols (op.field "constants")) fun c =>
    I.drawSolid c (I.looseShape shape fields op s.frame.polygons) s

/-- What an operation with unchecked fields does. -/
def performLoose (symbols : SymbolTable Float) (op : LooseOperation) (s : Stage Float σ) :
    Outcome (Stage Float σ) :=
  match op.opcode with
  | .frames | .basename | .vary => .done s
  | .push => I.perform symbols .push s
  | .pop => I.perform symbols .pop s
  | .move => transform (looseMatrix .shift symbols op) s
  | .scale => transform (looseMatrix .scaling symbols op) s
  | .rotate => transform (looseTurn symbols op) s
  | .box => I.drawLooseSolid "box" ["d0", "d1"] symbols op s
  | .sphere => I.drawLooseSolid "sphere" ["d", "r"] symbols op s
  | .torus => I.drawLooseSolid "torus" ["d", "r0", "r1"] symbols op s
  | .line => I.drawLine (I.looseShape "line" ["p0", "p1"] op s.frame.edges) s
  | .save => I.save (op.field "filename") s
  | .display => I.perform symbols .display s

end Interpreter

/-- What an interpreter may be given to carry out. -/
inductive Instruction
  /-- An operation of a script, or something that is no operation. -/
  | item (x : Item Float)
  /-- An operation with unchecked fields. -/
  | loose (op : LooseOperation)

/-- Carries out what the interpreter is given. -/
def Interpreter.carryOut {σ : Type} (I : Interpreter Float σ) (symbols : SymbolTable Float) :
    Instruction → Stage Float σ → Outcome (Stage Float σ)
  | .item x, s => I.executeItem symbols x s
  | .loose op, s => I.performLoose symbols op (I.record (.looseStep s.frame.index op) s)

/-- What an interpreter works with: the symbols that it looks up and the stage that it changes. -/
structure Session (σ : Type) where
  symbols : SymbolTable Float
  stage : Stage Float σ

namespace Session

variable {σ : Type}

/-- Carries out what the interpreter is given next. -/
def attempt (d : Session σ) (I : Interpreter Float σ) (x : Instruction) : Outcome (Session σ) :=
  (I.carryOut d.symbols x d.stage).map fun stage => { d with stage }

/-- The session after everything that the interpreter was given, whether it stopped or not. -/
def after (d : Session σ) (I : Interpreter Float σ) (xs : List Instruction) : Session σ :=
  xs.foldl (fun d x => (d.attempt I x).state) d

end Session

end Flipbook
