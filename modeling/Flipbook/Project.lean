import Flipbook.Fault
import Flipbook.Output.FileTree
import Flipbook.Yaml.Reader

/-!
# Projects

A project is a directory with everything that belongs together.  Its configuration is read from two
files, of which the second one counts more; a file that is missing or no mapping adds nothing.
-/

namespace Flipbook

namespace Project

/-- What a directory holds that is the root of a project. -/
def rootMarks : List String := [".git", "pyproject.toml", "configs"]

/-- The directory is the root of a project. -/
def isRoot (t : FileTree) (place : Place) : Bool :=
  rootMarks.any fun mark => (t.entryAt? (place ++ [mark])).isSome

/-- The nearest of a place and those around it that is the root of a project. -/
def enclosingRoot? (t : FileTree) (place : Place) : Option Place :=
  ((List.range (place.length + 1)).map fun n => place.take (place.length - n)).find? (isRoot t)

/-- The place of a name; a part that is not there is taken as it is. -/
def resolve (t : FileTree) (p : PathName) : Place :=
  p.parts.foldl (fun place part => if part = ".." then place.dropLast else place ++ [part])
    (if p.isAbsolute then [] else t.current)

/-- The root of the project that a name lies in; without any, the place two levels up. -/
def findRoot (t : FileTree) (start : PathName) : Place :=
  let place := resolve t start
  (enclosingRoot? t place).getD place.dropLast.dropLast

/-- The files of the configuration, those that count more last. -/
def configFiles : List String := ["configs/default.yaml", "config.yaml"]

variable {ν : Type} (yaml : Yaml.Reader ν)

/-- The entries of one file. -/
def readEntries (t : FileTree) (p : PathName) : Except Fault (List (Scalar × ν)) :=
  match t.read p with
  | .error _ => .ok []
  | .ok content => match yaml.read content with
    | .ok v => .ok ((yaml.entries? v).getD [])
    | .error .malformed => .ok []
    | .error .undecodable => .error (.file .undecodable)
    | .error (.scalar f) => .error (.scalar f)

/-- The configuration of the project with the given root, entry by entry. -/
def loadConfig (t : FileTree) (root : PathName) : Except Fault (List (Scalar × ν)) := do
  let entries ← configFiles.mapM fun name => readEntries yaml t (root / name)
  return Value.collected entries.flatten

end Project

end Flipbook
