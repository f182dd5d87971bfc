import Flipbook.Output.FrameName
import Flipbook.Stage.Interpreter
import Flipbook.Timeline.Config
import Flipbook.Timeline.Schedule

/-!
# Directing a run

A director prepares the schedule of a script, draws its frames one after the other, saves them and
has them put together at the end.  Everything that can be found wrong before drawing is found when
the schedule is prepared.
-/

namespace Flipbook

/-- A script on its way to frames. -/
structure Director (α σ : Type) where
  operations : List (Operation α)
  symbols : SymbolTable α
  interpreter : Interpreter α σ
  settings : Settings
  /-- The directory of frames and animations. -/
  outputDir : PathName
  /-- The extension of frames. -/
  ext : String
  /-- The width and height of frames. -/
  size : Int
  /-- The animation as a whole, once it has been prepared. -/
  config? : Option AnimationConfig := none
  /-- The knobs of every frame, once they have been prepared. -/
  schedule? : Option (KnobSchedule α) := none
  /-- The frame that is drawn again and again, once there is one. -/
  frame? : Option (Frame α) := none
  /-- What has happened so far. -/
  events : Array (Event α) := #[]
  /-- The world of the exporter. -/
  world : σ

namespace Director

variable {α σ : Type}

/-- Keeps an event, if it is one that is kept. -/
def record (e : Event α) (d : Director α σ) : Director α σ :=
  if d.interpreter.watches e then { d with events := d.events.push e } else d

/-- Tells something. -/
def tell (d : Director α σ) (n : Notice) : Director α σ := d.record (.notice n)

/-- Takes over what an exporter leaves behind. -/
def receive (d : Director α σ) (r : Report σ) : Outcome (Director α σ) :=
  { state := r.notices.foldl tell { d with world := r.world }, fault? := r.fault? }

variable [Zero α] [Add α] [Sub α] [Mul α] [Div α] [OfInteger α]

/-- Prepares the schedule and sets knobs that nothing has set to zero. -/
def compile (d : Director α σ) : Outcome (Director α σ) :=
  match AnimationConfig.ofOperations d.operations d.settings.defaultBasename with
  | .error f => .failed d f
  | .ok (config, notices) =>
    let d := notices.foldl tell d
    match KnobSchedule.ofOperations d.operations config.frameCount with
    | .error f => .failed d f
    | .ok schedule =>
      let (symbols, names) := d.symbols.declareKnobs d.operations
      let d := if names.isEmpty then d else d.tell (.knobsDeclared names)
      .done { d with symbols, config? := some config, schedule? := some schedule }

variable [One α] [Neg α] [NatCast α] [Circular α] [Farthest α]

/-- The state in which the operations of a frame are carried out. -/
def stage (d : Director α σ) (frame : Frame α) : Stage α σ :=
  { frame, events := d.events, world := d.world }

/-- Takes over the state in which the operations of a frame were carried out. -/
def ofStage (d : Director α σ) (s : Stage α σ) : Director α σ :=
  { d with frame? := some s.frame, events := s.events, world := s.world }

/-- The frame prepared to be drawn under a number: a new one, or the one there is. -/
def prepareFrame (d : Director α σ) (index : Int) : Except Fault (Frame α) :=
  match d.frame? with
  | none => Frame.create index d.size
  | some frame => .ok (frame.reset index)

/-- Draws a frame of a schedule. -/
def drawFrame (d : Director α σ) (schedule : KnobSchedule α) (index : Int) :
    Outcome (Director α σ) :=
  match d.prepareFrame index with
  | .error f => .failed d f
  | .ok frame =>
    let d := { d with frame? := some frame }
    match schedule.entriesAt index with
    | .error f => .failed d f
    | .ok entries =>
      let d := { d with symbols := d.symbols.applyEntries entries }
      (d.interpreter.run d.symbols d.operations (d.stage frame)).map d.ofStage

/-- Draws a frame, after preparing the schedule where there is none yet. -/
def renderFrame (d : Director α σ) (index : Int) : Outcome (Director α σ) :=
  match d.schedule? with
  | some schedule => d.drawFrame schedule index
  | none => d.compile.andThen fun d => match d.schedule? with
    | some schedule => d.drawFrame schedule index
    | none => .done d

/-- The path name of a frame. -/
def framePath (d : Director α σ) (config : AnimationConfig) (index : Int) : PathName :=
  FrameName.path d.outputDir config.basename index d.ext d.settings.imageExt

/-- Saves the picture of the frame that was drawn last. -/
def saveFrame (d : Director α σ) (config : AnimationConfig) (index : Int) :
    Outcome (Director α σ) :=
  match d.frame? with
  | none => .done d
  | some frame => .given d (Fault.ofConversion (FrameName.checkedIndex index)) fun _ =>
    let picture := frame.canvas.picture
    let path := (d.framePath config index).text
    let d := d.record (.save picture path)
    (d.receive (d.interpreter.exporter.save picture path d.world)).andThen fun d =>
      .done (if index % d.settings.progressEvery = 0 then d.tell (.savingFrame index) else d)

/-- Draws a frame and, in an animation, saves it. -/
def produceFrame (config : AnimationConfig) (index : Nat) (d : Director α σ) :
    Outcome (Director α σ) :=
  (d.renderFrame index).andThen fun d =>
    if config.isAnimation then d.saveFrame config index else .done d

/-- The path names of all frames that are saved. -/
def framePaths (d : Director α σ) (config : AnimationConfig) : List String :=
  if config.isAnimation then
    (List.range config.frameCount.toNat).map fun (i : Nat) => (d.framePath config i).text
  else []

/-- Has the saved frames put together. -/
def assemble (d : Director α σ) (config : AnimationConfig) : Outcome (Director α σ) :=
  let paths := d.framePaths config
  let d := (d.tell .assembling).record (.assemble config.basename paths)
  d.receive (d.interpreter.exporter.assemble config.basename paths d.world)

/-- Draws all frames of a prepared animation and, where there are several, has them put
together. -/
def produce (config : AnimationConfig) (d : Director α σ) : Outcome (Director α σ) :=
  (Outcome.sequence (produceFrame config) (List.range config.frameCount.toNat) d).andThen fun d =>
    if config.isAnimation then d.assemble config else .done d

/-- Carries out the script from its preparation to the animation. -/
def run (d : Director α σ) : Outcome (Director α σ) :=
  d.compile.andThen fun d => match d.config? with
    | some config => d.produce config
    | none => .done d

end Director

end Flipbook
