import Flipbook.Encoding.Checksum
import Flipbook.Raster.Picture

/-!
# Bitmaps

A picture as a header and its rows from the bottom to the top.  The channels of a pixel stand from
blue to red, and every row is filled up to a multiple of four bytes.
-/

namespace Flipbook.Encoding.Bitmap

/-- The bytes of the headers. -/
def headerSize : Nat := 54

/-- The bytes that fill up a row. -/
def padding (width : Nat) : Nat := (4 - 3 * width % 4) % 4

/-- The rows of a picture. -/
def rows (p : Picture) : ByteArray :=
  (List.range p.height).reverse.foldl (fun data r =>
    let data := (List.range p.width).foldl (fun data c =>
      match p.at? r c with
      | some c => ((data.push c.blue).push c.green).push c.red
      | none => data) data
    (List.range (padding p.width)).foldl (fun data _ => data.push 0) data) .empty

/-- The file of a picture. -/
def encode (p : Picture) : ByteArray :=
  let data := rows p
  let file := [0x42, 0x4d] ++ littleEndian 4 (headerSize + data.size) ++ littleEndian 4 0
    ++ littleEndian 4 headerSize
  let info := littleEndian 4 40 ++ littleEndian 4 p.width ++ littleEndian 4 p.height
    ++ littleEndian 2 1 ++ littleEndian 2 24 ++ littleEndian 4 0 ++ littleEndian 4 data.size
    ++ littleEndian 4 2835 ++ littleEndian 4 2835 ++ littleEndian 4 0 ++ littleEndian 4 0
  ⟨(file ++ info).toArray⟩ ++ data

end Flipbook.Encoding.Bitmap
