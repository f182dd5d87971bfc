import Flipbook.Encoding.Checksum
import Flipbook.Output.FileTree

/-!
# Animations in the graphics interchange format

Every frame shows colours of one palette, which has six steps in each channel.  The codes of pixels
are nine bits wide, and a code in between, which comes before codes would have to become wider,
starts them afresh.
-/

namespace Flipbook.Encoding.Gif

/-- The steps of a channel. -/
def levels : Nat := 6

/-- The step nearest to a channel. -/
def level (channel : UInt8) : Nat := (channel.toNat * (levels - 1) + 127) / 255

/-- The place of a colour in the palette. -/
def index (c : Rgb) : Nat := (level c.red * levels + level c.green) * levels + level c.blue

/-- The palette, filled up to 256 colours. -/
def palette : List UInt8 :=
  let channel (n : Nat) : UInt8 := UInt8.ofNat (n * 51)
  ((List.range (levels * levels * levels)).flatMap fun i =>
    [channel (i / (levels * levels)), channel (i / levels % levels), channel (i % levels)])
    ++ List.replicate (3 * (256 - levels * levels * levels)) 0

/-- The code that starts afresh. -/
def clearCode : Nat := 256

/-- The code after the last pixel. -/
def endCode : Nat := 257

/-- How many pixels stand between two codes that start afresh. -/
def runLength : Nat := 250

/-- The codes of a picture. -/
def codes (p : Picture) : List Nat :=
  let pixels := p.pixels.toList.zipIdx.flatMap fun (c, i) =>
    if i % runLength = 0 then [clearCode, index c] else [index c]
  (if pixels.isEmpty then [clearCode] else pixels) ++ [endCode]

/-- Codes packed into bytes from the lowest bit on. -/
def pack (codes : List Nat) : ByteArray :=
  let (out, held, size) := codes.foldl (fun (out, held, size) code =>
    let held := held + (code <<< size)
    let size := size + 9
    if size < 16 then (ByteArray.push out (UInt8.ofNat (held % 256)), held / 256, size - 8)
    else ((ByteArray.push out (UInt8.ofNat (held % 256))).push (UInt8.ofNat (held / 256 % 256)),
      held / 65536, size - 16)) (ByteArray.empty, 0, 0)
  if size = 0 then out else out.push (UInt8.ofNat held)

/-- Bytes in blocks of at most 255, each after its length, with an empty block at the end. -/
def blocks (data : ByteArray) : ByteArray :=
  ((List.range ((data.size + 254) / 255)).foldl (fun out i =>
    let block := data.extract (i * 255) ((i + 1) * 255)
    out.push (UInt8.ofNat block.size) ++ block) .empty).push 0

/-- A frame with its time in hundredths of a second. -/
def frame (f : AnimationFrame) : ByteArray :=
  let p := f.picture
  ⟨([0x21, 0xf9, 4, 0] ++ littleEndian 2 (f.delay / 10).toNat ++ [0, 0, 0x2c]
    ++ littleEndian 4 0 ++ littleEndian 2 p.width ++ littleEndian 2 p.height ++ [0, 8]).toArray⟩
    ++ blocks (pack (codes p))

/-- The file of an animation. -/
def encode (a : Animation) : ByteArray :=
  let (width, height) := match a.frames with
    | [] => (0, 0)
    | f :: _ => (f.picture.width, f.picture.height)
  let start := "GIF89a".toUTF8 ++ ⟨(littleEndian 2 width ++ littleEndian 2 height
    ++ [0xf7, 0, 0] ++ palette).toArray⟩
  let loop := ⟨#[0x21, 0xff, 11]⟩ ++ "NETSCAPE2.0".toUTF8
    ++ ⟨([3, 1] ++ littleEndian 2 a.loop ++ [0]).toArray⟩
  a.frames.foldl (fun out f => out ++ frame f) (start ++ loop) |>.push 0x3b

end Flipbook.Encoding.Gif
