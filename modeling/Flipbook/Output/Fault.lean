import Flipbook.Text.Quoted

/-!
# What can be wrong with files

The faults of paths, pictures and animations, with the messages of those that have one.
-/

namespace Flipbook

/-- Why a file is not read or written. -/
inductive FileFault
  /-- A file stands where a directory is needed. -/
  | occupied
  /-- A part of the path before the last one is a file. -/
  | notDirectory
  /-- A directory stands where a file is needed. -/
  | isDirectory
  /-- There is no such file or directory. -/
  | missing
  /-- The path has no name that an extension could be added to, or the extension is none. -/
  | noName
  /-- No picture format has this extension. -/
  | unknownFormat
  /-- The bytes are no text. -/
  | undecodable
  /-- The pictures of an animation have different sizes. -/
  | unequalPictures
  /-- An animation of no frames is asked for. -/
  | noFrames (basename : String)
  /-- A frame of an animation is no file. -/
  | missingFrame (basename path : String)
  deriving DecidableEq, Repr

/-- The message of a fault. -/
def FileFault.message? : FileFault → Option String
  | noFrames basename => some ("no frames for " ++ Text.quoted basename)
  | missingFrame basename path =>
    some ("missing frame(s) for " ++ Text.quoted basename ++ ": " ++ path)
  | _ => none

end Flipbook
