import Flipbook.Encoding.Bitmap
import Flipbook.Encoding.Gif
import Flipbook.Encoding.Png
import Flipbook.Output.PictureFile

/-!
# The bytes of files

What is written to the disk for a file of a tree.  Of the formats of pictures three are encoded
here.
-/

namespace Flipbook.FileContent

/-- The bytes of a file by its name, unless its format is not encoded here. -/
def encode? (name : PathName) : FileContent → Option ByteArray
  | bytes data => some data
  | animation a => some (Encoding.Gif.encode a)
  | picture p =>
    match Text.lower (Text.dropLeading '.' name.suffix) with
    | "png" | "apng" => some (Encoding.Png.encode p)
    | "bmp" | "dib" => some (Encoding.Bitmap.encode p)
    | "gif" => some (Encoding.Gif.encode ⟨[⟨p, 0⟩], 0⟩)
    | _ => none

end Flipbook.FileContent
