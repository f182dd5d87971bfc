import Flipbook.Log
import Flipbook.Settings

/-!
# The length and name of an animation

A script says anywhere how many frames it has and what it is called; the last word counts.
`AnimationConfig.ofOperations` gathers both before anything is drawn.
-/

namespace Flipbook

/-- What holds for an animation as a whole. -/
structure AnimationConfig where
  /-- The number of frames, at least one. -/
  frameCount : Int
  /-- The first part of the names of its files. -/
  basename : String
  /-- Some knob varies. -/
  hasVary : Bool
  deriving DecidableEq, Repr

namespace AnimationConfig

/-- There is more than one frame. -/
def isAnimation (c : AnimationConfig) : Bool := 1 < c.frameCount

/-- What a script says, as far as it has been read. -/
structure Scan where
  /-- The last number of frames, zero where there is none. -/
  frameCount : Int := 0
  /-- The last name, empty where there is none. -/
  basename : String := ""
  /-- Some knob varies. -/
  hasVary : Bool := false

/-- Reads one more operation. -/
def Scan.next {α : Type} (s : Scan) : Operation α → Scan
  | .frames count => { s with frameCount := count }
  | .basename name => { s with basename := name }
  | .vary _ => { s with hasVary := true }
  | _ => s

/-- Reads all operations. -/
def scan {α : Type} (ops : List (Operation α)) : Scan := ops.foldl Scan.next {}

/-- What is told about a script that says so much. -/
def notices (s : Scan) (defaultBasename : String) : List Notice :=
  if 0 < s.frameCount then
    (if s.basename = "" then [.defaultBasename defaultBasename] else [])
      ++ (if s.hasVary then [] else [.identicalFrames s.frameCount])
  else []

/-- The animation of a script, with what is told about it.  Knobs that vary need a number of
frames. -/
def ofOperations {α : Type} (ops : List (Operation α)) (defaultBasename : String) :
    Except Fault (AnimationConfig × List Notice) :=
  let s := scan ops
  if s.hasVary ∧ s.frameCount ≤ 0 then .error .missingFrameCount
  else
    let basename := if 0 < s.frameCount ∧ s.basename = "" then defaultBasename else s.basename
    .ok (⟨max s.frameCount 1, basename, s.hasVary⟩, notices s defaultBasename)

end AnimationConfig

end Flipbook
