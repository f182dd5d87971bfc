import Flipbook.OrderedMap
import Flipbook.Output.Fault
import Flipbook.Output.PathName
import Flipbook.Raster.Picture

/-!
# File trees

Directories and files by their places.  A place is the list of names from the root; a path name
leads to one from a working directory, and every step of the way must be a directory.
-/

namespace Flipbook

/-- A picture with the time that it is shown, in milliseconds. -/
structure AnimationFrame where
  picture : Picture
  delay : Int
  deriving DecidableEq, Repr

/-- Pictures that are shown one after the other. -/
structure Animation where
  frames : List AnimationFrame
  /-- How often it is shown; zero means without end. -/
  loop : Nat
  deriving DecidableEq, Repr

/-- What a file holds. -/
inductive FileContent
  | bytes (data : ByteArray)
  | picture (p : Picture)
  | animation (a : Animation)

/-- The text that a file holds. -/
def FileContent.text? : FileContent → Option String
  | bytes data => String.fromUTF8? data
  | _ => none

/-- What stands at a place. -/
inductive FileEntry
  | directory
  | file (content : FileContent)

/-- A place: the names from the root on. -/
abbrev Place := List String

/-- Directories and files, with a working directory. -/
structure FileTree where
  /-- The working directory. -/
  current : Place
  /-- Everything below the root. -/
  entries : OrderedMap Place FileEntry

namespace FileTree

/-- The tree that holds only its working directory. -/
def empty (current : Place) : FileTree :=
  ⟨current, .ofList ((List.range current.length).map fun n =>
    (current.take (n + 1), .directory))⟩

/-- What stands at a place. -/
def entryAt? (t : FileTree) (place : Place) : Option FileEntry :=
  match place with
  | [] => some .directory
  | place => t.entries.get? place

/-- Goes from a directory along the parts of a name. -/
def walk (t : FileTree) (place : Place) : List String → Except FileFault Place
  | [] => .ok place
  | part :: parts =>
    match t.entryAt? place with
    | none => .error .missing
    | some (.file _) => .error .notDirectory
    | some .directory => t.walk (if part = ".." then place.dropLast else place ++ [part]) parts

/-- The place that a path name leads to. -/
def locate (t : FileTree) (p : PathName) : Except FileFault Place :=
  t.walk (if p.isAbsolute then [] else t.current) p.parts

/-- What a path name leads to. -/
def lookup? (t : FileTree) (p : PathName) : Option FileEntry :=
  match t.locate p with
  | .ok place => t.entryAt? place
  | .error _ => none

/-- There is a directory under this name. -/
def isDirectory (t : FileTree) (p : PathName) : Bool :=
  match t.lookup? p with
  | some .directory => true
  | _ => false

/-- There is a file under this name. -/
def isFile (t : FileTree) (p : PathName) : Bool :=
  match t.lookup? p with
  | some (.file _) => true
  | _ => false

/-- Makes one directory in a directory that is there. -/
def makeDirectory (t : FileTree) (p : PathName) : Except FileFault FileTree := do
  let place ← t.locate p
  match t.entryAt? place with
  | some _ => throw .occupied
  | none => return { t with entries := t.entries.insert place .directory }

/-- A directory is there, or it is made. -/
def admitDirectory (t : FileTree) (p : PathName) : Except FileFault FileTree :=
  match t.makeDirectory p with
  | .ok t => .ok t
  | .error f => if t.isDirectory p then .ok t else .error f

/-- Makes a directory, which may be there already, and up to `missing` of those it lies in. -/
def ensureFrom (t : FileTree) (p : PathName) : (missing : Nat) → Except FileFault FileTree
  | 0 => t.admitDirectory p
  | missing + 1 =>
    match t.makeDirectory p with
    | .error .missing => do
      let t ← t.ensureFrom p.parent missing
      t.admitDirectory p
    | _ => t.admitDirectory p

/-- Makes a directory, which may be there already, and those it lies in. -/
def ensureDirectory (t : FileTree) (p : PathName) : Except FileFault FileTree :=
  t.ensureFrom p p.parts.length

/-- Writes a file into a directory that is there. -/
def write (t : FileTree) (p : PathName) (content : FileContent) : Except FileFault FileTree := do
  let place ← t.locate p
  match t.entryAt? place, t.entryAt? place.dropLast with
  | some .directory, _ => throw .isDirectory
  | _, some .directory => return { t with entries := t.entries.insert place (.file content) }
  | _, some (.file _) => throw .notDirectory
  | _, none => throw .missing

/-- Reads a file. -/
def read (t : FileTree) (p : PathName) : Except FileFault FileContent := do
  match t.entryAt? (← t.locate p) with
  | some (.file content) => return content
  | some .directory => throw .isDirectory
  | none => throw .missing

/-- The files of `t` that are not in an earlier tree, by their places. -/
def filesSince (before t : FileTree) : List (Place × FileContent) :=
  t.entries.entries.filterMap fun
    | (place, .file content) =>
      match before.entryAt? place with
      | some (.file _) => none
      | _ => some (place, content)
    | (_, .directory) => none

/-- The files below the working directory with their names seen from there, in order. -/
def files (t : FileTree) : List (String × FileContent) :=
  let below := t.entries.entries.filterMap fun
    | (place, .file content) =>
      if t.current.isPrefixOf place then
        some ("/".intercalate (place.drop t.current.length), content)
      else none
    | (_, .directory) => none
  below.mergeSort fun a b => decide (a.1 ≤ b.1)

end FileTree

end Flipbook
