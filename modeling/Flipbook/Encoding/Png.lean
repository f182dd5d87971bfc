import Flipbook.Encoding.Checksum
import Flipbook.Raster.Picture

/-!
# Portable network graphics

A picture as a sequence of chunks.  Its rows are stored as they are, without compression.
-/

namespace Flipbook.Encoding.Png

/-- What every such file begins with. -/
def signature : List UInt8 := [0x89, 0x50, 0x4e, 0x47, 0x0d, 0x0a, 0x1a, 0x0a]

/-- A chunk: its length, its name, its content, and a checksum of name and content. -/
def chunk (name : String) (content : ByteArray) : ByteArray :=
  let body := name.toUTF8 ++ content
  ⟨(bigEndian 4 content.size).toArray⟩ ++ body
    ++ ⟨(bigEndian 4 (cyclicRemainder body).toNat).toArray⟩

/-- The rows of a picture, each after a zero byte that says how it is to be read. -/
def rows (p : Picture) : ByteArray :=
  (List.range p.height).foldl (fun data r =>
    (List.range p.width).foldl (fun data c =>
      match p.at? r c with
      | some c => ((data.push c.red).push c.green).push c.blue
      | none => data) (data.push 0)) .empty

/-- The greatest length of a block that is stored as it is. -/
def blockLimit : Nat := 65535

/-- Blocks that store bytes as they are; the last one is marked. -/
def storedBlocks (data : ByteArray) : ByteArray :=
  let count := (data.size + blockLimit - 1) / blockLimit
  (List.range count).foldl (fun out i =>
    let block := data.extract (i * blockLimit) ((i + 1) * blockLimit)
    out ++ ⟨((if i + 1 = count then 1 else 0) :: littleEndian 2 block.size
      ++ littleEndian 2 (blockLimit - block.size)).toArray⟩ ++ block) .empty

/-- A stream that holds bytes in stored blocks. -/
def stream (data : ByteArray) : ByteArray :=
  ⟨#[0x78, 0x01]⟩ ++ storedBlocks data ++ ⟨(bigEndian 4 (runningSums data)).toArray⟩

/-- The header: width, height, eight bits in a channel, three channels. -/
def header (p : Picture) : ByteArray :=
  ⟨(bigEndian 4 p.width ++ bigEndian 4 p.height ++ [8, 2, 0, 0, 0]).toArray⟩

/-- The file of a picture. -/
def encode (p : Picture) : ByteArray :=
  ⟨signature.toArray⟩ ++ chunk "IHDR" (header p) ++ chunk "IDAT" (stream (rows p))
    ++ chunk "IEND" .empty

end Flipbook.Encoding.Png
