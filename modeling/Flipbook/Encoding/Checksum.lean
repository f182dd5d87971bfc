/-!
# Numbers as bytes, and checksums

Numbers in files have a fixed number of bytes, with the highest or the lowest byte first.  Two
checksums guard the parts of a file: the remainder of its bits as a polynomial, and two running sums
of its bytes.
-/

namespace Flipbook.Encoding

/-- The lowest `width` bytes of a number, the lowest first. -/
def littleEndian : (width : Nat) → Nat → List UInt8
  | 0, _ => []
  | width + 1, n => UInt8.ofNat (n % 256) :: littleEndian width (n / 256)

/-- The lowest `width` bytes of a number, the highest first. -/
def bigEndian (width n : Nat) : List UInt8 := (littleEndian width n).reverse

/-- One bit of a remainder is shifted out. -/
def shiftRemainder (r : UInt32) : UInt32 :=
  if r &&& 1 = 1 then (r >>> 1) ^^^ 0xedb88320 else r >>> 1

/-- A remainder takes in a byte, from its lowest bit on. -/
def stepRemainder (r : UInt32) (b : UInt8) : UInt32 :=
  (List.range 8).foldl (fun r _ => shiftRemainder r) (r ^^^ b.toUInt32)

/-- The cyclic remainder of some bytes in 32 bits. -/
def cyclicRemainder (data : ByteArray) : UInt32 :=
  data.foldl stepRemainder 0xffffffff ^^^ 0xffffffff

/-- The modulus of running sums, the greatest prime below 2 to the power of 16. -/
def sumModulus : Nat := 65521

/-- The sum of some bytes, and the sum of all its values on the way, in one number. -/
def runningSums (data : ByteArray) : Nat :=
  let (a, b) := data.foldl (fun (a, b) c =>
    let a := (a + c.toNat) % sumModulus
    (a, (b + a) % sumModulus)) (1, 0)
  b * 65536 + a

end Flipbook.Encoding
