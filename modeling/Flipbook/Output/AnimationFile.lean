import Flipbook.Output.FileTree

/-!
# Animation files

Saved frames are put together to an animation that runs without end.  Neighbouring frames that are
equal become one that is shown longer, and times are kept in hundredths of a second.
-/

namespace Flipbook

namespace Animation

/-- Puts a frame before others; a frame equal to the first of them is shown together with it. -/
def prepend (f : AnimationFrame) : List AnimationFrame → List AnimationFrame
  | [] => [f]
  | g :: rest =>
    if f.picture = g.picture then { g with delay := f.delay + g.delay } :: rest else f :: g :: rest

/-- The animation of pictures that are shown equally long. -/
def ofPictures (pictures : List Picture) (delay : Int) : Animation :=
  ⟨pictures.foldr (fun p rest => prepend ⟨p, delay⟩ rest) [], 0⟩

/-- The time that the first frame is shown, in whole hundredths of a second. -/
def firstDelay (a : Animation) : Int :=
  (a.frames.head?.map fun f => f.delay / 10 * 10).getD 0

end Animation

namespace AnimationFile

/-- The pictures of frame files, in order. -/
def readFrames (t : FileTree) (frames : List PathName) : Except FileFault (List Picture) :=
  frames.mapM fun p => do
    match ← t.read p with
    | .picture picture => return picture
    | _ => throw .unknownFormat

/-- All pictures have the size of the first. -/
def equalSizes : List Picture → Bool
  | [] => true
  | p :: ps => ps.all fun q => q.shape == p.shape

/-- Puts frames together to an animation in a directory or, where none is given, in that of the
first frame; says under which name. -/
def assemble (t : FileTree) (basename : String) (frames : List PathName)
    (directory : Option PathName) (delay : Int) : Except FileFault (FileTree × PathName) := do
  let first :: _ := frames | throw (.noFrames basename)
  if let some p := frames.find? fun p => !t.isFile p then
    throw (.missingFrame basename p.text)
  let pictures ← readFrames t frames
  if !equalSizes pictures then throw .unequalPictures
  let path := directory.getD first.parent / (basename ++ ".gif")
  return (← t.write path (.animation (.ofPictures pictures delay)), path)

end AnimationFile

end Flipbook
