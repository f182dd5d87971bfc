import Flipbook.Output.FileTree
import Flipbook.Text.Case

/-!
# Picture files

A picture is saved under a name whose extension says its format; a name without one gets a default
extension.  Directories are made as needed.  What encodes pictures knows the formats, and says under
which names it writes them.
-/

namespace Flipbook

namespace PictureFile

/-- The extensions of the formats that pictures are written in. -/
def formats : List String := [
  "png", "apng", "bmp", "dib", "gif", "jpg", "jpeg", "jpe", "jfif", "tif", "tiff", "webp", "ppm",
  "pgm", "pbm", "pnm", "tga", "icb", "vda", "vst", "ico", "icns", "pcx", "sgi", "rgb", "rgba",
  "bw", "im", "jp2", "j2k", "j2c", "jpc", "jpf", "jpx", "eps", "ps", "pdf", "dds"]

/-- The name that a picture is saved under. -/
def resolve (p : PathName) (defaultExt : String) : Except FileFault PathName :=
  if p.suffix ≠ "" then .ok p
  else match p.addExtension? defaultExt with
    | some p => .ok p
    | none => .error .noName

/-- The last extension of a name is that of a format. -/
def hasFormat (p : PathName) : Bool :=
  formats.contains (Text.lower (Text.dropLeading '.' p.suffix))

/-- Saves a picture, and says under which name; `writes` says for which names there is a format. -/
def save (writes : PathName → Bool) (t : FileTree) (picture : Picture)
    (filename defaultExt : String) : FileTree × Except FileFault PathName :=
  match resolve (.ofString filename) defaultExt with
  | .error f => (t, .error f)
  | .ok p => match t.ensureDirectory p.parent with
    | .error f => (t, .error f)
    | .ok t =>
      if writes p then
        match t.write p (.picture picture) with
        | .ok t => (t, .ok p)
        | .error f => (t, .error f)
      else (t, .error .unknownFormat)

end PictureFile

end Flipbook
