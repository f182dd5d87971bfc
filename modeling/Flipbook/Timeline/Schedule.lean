import Flipbook.Fault
import Flipbook.Numeric.Scalar
import Flipbook.Script.SymbolTable

/-!
# The schedule of knobs

A knob that varies has a value in every frame of its range.  A `KnobSchedule` lists for each frame
the knobs that vary in it with their values, in the order of the script; when a frame is drawn the
values are written into the symbol table one after the other.
-/

namespace Flipbook

namespace Vary

variable {α : Type} [Add α] [Sub α] [Mul α] [Div α] [OfInteger α]

/-- The value in a frame.  The range is divided into as many parts as it has frames, so the end
value would be reached one frame after the last. -/
def valueAt (v : Vary α) (frame : Int) : Except Fault α := do
  let some passed := OfInteger.ofInteger? (frame - v.startFrame)
    | throw (.conversion .outOfRange)
  let width := v.endFrame - v.startFrame + 1
  let some parts := OfInteger.ofInteger? width | throw (.conversion .outOfRange)
  if width = 0 then throw .divisionByZero
  return v.startValue + (v.endValue - v.startValue) * passed / parts

end Vary

/-- A knob with its value in some frame. -/
abbrev KnobEntry (α : Type) := String × α

/-- The entries of every frame. -/
structure KnobSchedule (α : Type) where
  frames : Array (Array (KnobEntry α))
  deriving DecidableEq, BEq, Repr

namespace KnobSchedule

variable {α : Type}

/-- The number of frames. -/
def size (s : KnobSchedule α) : Nat := s.frames.size

/-- The schedule of so many frames in which nothing varies. -/
def empty (frameCount : Int) : KnobSchedule α := ⟨Array.replicate frameCount.toNat #[]⟩

/-- Adds an entry at the end of a frame. -/
def push (s : KnobSchedule α) (frame : Nat) (e : KnobEntry α) : KnobSchedule α :=
  ⟨s.frames.modify frame (·.push e)⟩

section Build

variable [Add α] [Sub α] [Mul α] [Div α] [OfInteger α]

/-- Adds the entries of a knob for `count` frames from `first` on. -/
def addRange (v : Vary α) (first : Int) : Nat → KnobSchedule α → Except Fault (KnobSchedule α)
  | 0, s => .ok s
  | count + 1, s => do
    addRange v (first + 1) count (s.push first.toNat (v.knob, ← v.valueAt first))

/-- Adds the entries of a knob, whose range must lie within the frames. -/
def add (frameCount : Int) (s : KnobSchedule α) (v : Vary α) : Except Fault (KnobSchedule α) :=
  if v.startFrame < 0 ∨ frameCount ≤ v.endFrame then
    .error (Fault.frameRange v.knob v.startFrame v.endFrame frameCount).raised
  else addRange v v.startFrame (v.endFrame + 1 - v.startFrame).toNat s

/-- The knobs that vary, in order. -/
def varies (ops : List (Operation α)) : List (Vary α) :=
  ops.filterMap fun
    | .vary v => some v
    | _ => none

/-- The schedule of a script. -/
def ofOperations (ops : List (Operation α)) (frameCount : Int) : Except Fault (KnobSchedule α) :=
  (varies ops).foldlM (add frameCount) (empty frameCount)

end Build

/-- The entries of a frame; negative numbers count from the end. -/
def entriesAt (s : KnobSchedule α) (frame : Int) : Except Fault (Array (KnobEntry α)) :=
  let place := if frame < 0 then frame + s.size else frame
  match place with
  | .ofNat i => match s.frames[i]? with
    | some entries => .ok entries
    | none => .error .noSuchFrame
  | .negSucc _ => .error .noSuchFrame

/-- The values of a frame by knob; of several entries of a knob the last one counts. -/
def valuesAt (s : KnobSchedule α) (frame : Int) : Except Fault (OrderedMap String α) := do
  return .ofList (← s.entriesAt frame).toList

end KnobSchedule

namespace SymbolTable

variable {α : Type}

/-- Writes entries one after the other. -/
def applyEntries (t : SymbolTable α) (entries : Array (KnobEntry α)) : SymbolTable α :=
  entries.foldl (fun t e => t.setKnob e.1 e.2) t

/-- Sets the knobs that operations name and nothing has set to zero, and lists them. -/
def declareKnobs [Zero α] (t : SymbolTable α) :
    List (Operation α) → SymbolTable α × List String
  | [] => (t, [])
  | op :: ops =>
    match op.knob? with
    | none => t.declareKnobs ops
    | some name =>
      if t.knobs.contains name then t.declareKnobs ops
      else
        let (t, names) := (t.setKnob name 0).declareKnobs ops
        (t, name :: names)

end SymbolTable

end Flipbook
