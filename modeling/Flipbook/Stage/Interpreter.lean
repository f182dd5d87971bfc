import Flipbook.Mesh.Box
import Flipbook.Mesh.Round
import Flipbook.Output.Exporter
import Flipbook.Raster.Rasterizer
import Flipbook.Stage.Event
import Flipbook.Stage.Frame

/-!
# Carrying out operations

An interpreter carries out the operations of a script for one frame, one after the other.
Transformations compose the current coordinate system with a further one on its right; shapes are
built, transformed by the current coordinate system and handed to the rasterizer; pictures are
handed to the exporter.
-/

namespace Flipbook

/-- What changes while operations are carried out. -/
structure Stage (α σ : Type) where
  frame : Frame α
  /-- What has happened so far. -/
  events : Array (Event α)
  /-- The world of the exporter. -/
  world : σ

/-- What stays the same while operations are carried out. -/
structure Interpreter (α σ : Type) where
  rasterizer : Rasterizer α
  exporter : Exporter σ
  scene : Scene α
  /-- The steps that curved surfaces are divided into. -/
  steps : Int
  /-- The events that are kept. -/
  watches : Event α → Bool

namespace Interpreter

variable {α σ : Type} (I : Interpreter α σ)

/-- Keeps an event, if it is one that is kept. -/
def record (e : Event α) (s : Stage α σ) : Stage α σ :=
  if I.watches e then { s with events := s.events.push e } else s

/-- Takes over what an exporter leaves behind. -/
def receive (r : Report σ) (s : Stage α σ) : Outcome (Stage α σ) :=
  { state := r.notices.foldl (fun s n => I.record (.notice n) s) { s with world := r.world }
    fault? := r.fault? }

/-- The number that a knob multiplies by; one without a knob. -/
def factor [One α] (symbols : SymbolTable α) : Option String → Except Fault α
  | none => .ok 1
  | some name => match symbols.knob? name with
    | some k => .ok k
    | none => .error (.unknownSymbol .knob name)

/-- The material of a name; the default one without a name. -/
def material (symbols : SymbolTable α) : Option String → Except Fault (Constants α)
  | none => .ok I.scene.defaultConstants
  | some name => match symbols.constants? name with
    | some c => .ok c
    | none => .error (.unknownSymbol .constants name)

/-- Composes the current coordinate system with a further one. -/
def transform [Add α] [Mul α] (m : Except Fault (Matrix4 α)) (s : Stage α σ) :
    Outcome (Stage α σ) :=
  match m with
  | .error f => .failed s f
  | .ok m => .done { s with frame := { s.frame with stack := s.frame.stack.transform m } }

/-- Hands the picture to the exporter under a file name. -/
def save (filename : Value) (s : Stage α σ) : Outcome (Stage α σ) :=
  let s := I.record (.save s.frame.canvas.picture filename) s
  I.receive (I.exporter.save s.frame.canvas.picture filename s.world) s

/-- Leaves the current coordinate system. -/
def leave (s : Stage α σ) : Outcome (Stage α σ) :=
  match s.frame.stack.pop? with
  | some stack => .done { s with frame := { s.frame with stack } }
  | none => .failed s (.stackUnderflow s.frame.stack.depth)

section Drawing

variable [Zero α] [One α] [Add α] [Mul α]

/-- Draws the triangles that have been added to their buffer and empties it, whether drawing came
to its end or not; nothing is drawn where adding them did not. -/
def drawSolid (constants : Constants α) (added : Outcome (GeometryBuffer α)) (s : Stage α σ) :
    Outcome (Stage α σ) :=
  match added with
  | ⟨polygons, some f⟩ => .failed { s with frame := { s.frame with polygons } } f
  | ⟨buffer, none⟩ =>
    let buffer := buffer.apply s.frame.stack.top
    let s := I.record (.solid buffer.points constants) s
    (I.rasterizer.drawSolid I.scene buffer.points constants s.frame.canvas).map fun canvas =>
      { s with frame := { s.frame with canvas, polygons := buffer.clear } }

/-- Draws the lines that have been added to their buffer and empties it, whether drawing came to
its end or not; nothing is drawn where adding them did not. -/
def drawLine (added : Outcome (GeometryBuffer α)) (s : Stage α σ) : Outcome (Stage α σ) :=
  match added with
  | ⟨edges, some f⟩ => .failed { s with frame := { s.frame with edges } } f
  | ⟨buffer, none⟩ =>
    let buffer := buffer.apply s.frame.stack.top
    let s := I.record (.line buffer.points) s
    (I.rasterizer.drawLine I.scene buffer.points s.frame.canvas).map fun canvas =>
      { s with frame := { s.frame with canvas, edges := buffer.clear } }

/-- Draws triangles. -/
def drawPolygons (constants : Constants α) (mesh : Array (Vec3 α)) (s : Stage α σ) :
    Outcome (Stage α σ) :=
  I.drawSolid constants (s.frame.polygons.addVertices mesh) s

/-- Draws lines. -/
def drawEdges (ends : Array (Vec3 α)) (s : Stage α σ) : Outcome (Stage α σ) :=
  I.drawLine (s.frame.edges.addVertices ends) s

/-- Draws a shape of a material that is given by name. -/
def drawShape (symbols : SymbolTable α) (constants : Option String)
    (mesh : Except GeometryFault (Array (Vec3 α))) (s : Stage α σ) : Outcome (Stage α σ) :=
  match I.material symbols constants, mesh with
  | .error f, _ => .failed s f
  | .ok _, .error f => .failed s (Fault.geometry f).raised
  | .ok c, .ok mesh => I.drawPolygons c mesh s

end Drawing

variable [Zero α] [One α] [Add α] [Mul α] [Neg α] [Div α] [NatCast α] [Circular α]

/-- What an operation does. -/
def perform (symbols : SymbolTable α) : Operation α → Stage α σ → Outcome (Stage α σ)
  | .frames _, s | .basename _, s | .vary _, s => .done s
  | .push, s => .done { s with frame := { s.frame with stack := s.frame.stack.push } }
  | .pop, s => leave s
  | .move d knob, s => transform ((factor symbols knob).map fun k => .shift (d.scale k)) s
  | .scale d knob, s => transform ((factor symbols knob).map fun k => .scaling (d.scale k)) s
  | .rotate axis degrees knob, s =>
    transform ((factor symbols knob).map fun k =>
      .rotation axis (degrees * Circular.degree * k)) s
  | .box corner extent constants _, s =>
    I.drawShape symbols constants (.ok (Mesh.box corner extent)) s
  | .sphere centre radius constants _, s =>
    I.drawShape symbols constants ((Mesh.checkedSteps I.steps).map (Mesh.sphere centre radius)) s
  | .torus centre tube ring constants _, s =>
    I.drawShape symbols constants ((Mesh.checkedSteps I.steps).map (Mesh.torus centre tube ring)) s
  | .line start stop .., s => I.drawEdges #[start, stop] s
  | .save filename, s => I.save filename s
  | .display, s =>
    let s := I.record (.display s.frame.canvas.picture) s
    I.receive (I.exporter.display s.frame.canvas.picture s.world) s

/-- Carries out an operation. -/
def execute (symbols : SymbolTable α) (op : Operation α) (s : Stage α σ) : Outcome (Stage α σ) :=
  I.perform symbols op (I.record (.step s.frame.index op) s)

/-- Carries out operations up to the first that stops. -/
def run (symbols : SymbolTable α) (ops : List (Operation α)) (s : Stage α σ) :
    Outcome (Stage α σ) :=
  Outcome.sequence (I.execute symbols) ops s

end Interpreter

/-- An operation, or something else among the operations. -/
inductive Item (α : Type)
  | operation (op : Operation α)
  | foreign (v : Value)

namespace Item

variable {α : Type}

/-- The operation of an item. -/
def operation? : Item α → Option (Operation α)
  | operation op => some op
  | foreign _ => none

/-- The operations among items. -/
def operations (items : List (Item α)) : List (Operation α) := items.filterMap operation?

end Item

/-- Carries out an item; what is no operation stops it. -/
def Interpreter.executeItem {α σ : Type} [Zero α] [One α] [Add α] [Mul α] [Neg α] [Div α]
    [NatCast α] [Circular α] (I : Interpreter α σ) (symbols : SymbolTable α) :
    Item α → Stage α σ → Outcome (Stage α σ)
  | .operation op, s => I.execute symbols op s
  | .foreign v, s => .failed s (Fault.foreignOperation v).raised

end Flipbook
