/-!
# Double-precision numbers, read from their bits

`Binary64.read` gives the exact value of a float: no number, an infinity, or a signed integer
mantissa times a power of two.  Every conversion to an integer is computed from that reading.
-/

namespace Flipbook.Numeric

/-- What the bits of a double-precision number say. -/
inductive Binary64
  /-- No number. -/
  | nan
  /-- An infinity. -/
  | infinite (negative : Bool)
  /-- The value `± mantissa · 2 ^ exponent`. -/
  | finite (negative : Bool) (mantissa : Nat) (exponent : Int)
  deriving DecidableEq, Repr

namespace Binary64

/-- The reading of a sign bit, an exponent field of 11 bits and a fraction field of 52 bits. -/
def ofFields (negative : Bool) (field fraction : Nat) : Binary64 :=
  if field = 2047 then if fraction = 0 then infinite negative else nan
  else if field = 0 then finite negative fraction (-1074)
  else finite negative ((1 <<< 52) + fraction) (field - 1075)

/-- The reading of a float. -/
def read (x : Float) : Binary64 :=
  let bits := x.toBits.toNat
  ofFields ((bits >>> 63) == 1) ((bits >>> 52) % (1 <<< 11)) (bits % (1 <<< 52))

/-- The value is a number and no infinity. -/
def isFinite : Binary64 → Bool
  | finite .. => true
  | _ => false

/-- A magnitude with its sign. -/
def signed (negative : Bool) (n : Nat) : Int :=
  if negative then -n else n

/-- `m · 2 ^ e` cut to an integer: its whole part and whether nothing was cut off. -/
def cut (m : Nat) (e : Int) : Nat × Bool :=
  match e with
  | .ofNat k => (m <<< k, true)
  | .negSucc k => (m >>> (k + 1), m % (1 <<< (k + 1)) == 0)

/-- The integer next to the value on the way to zero. -/
def trunc? : Binary64 → Option Int
  | finite negative m e => some (signed negative (cut m e).1)
  | _ => none

/-- The least number that is too great for a machine word of 64 bits. -/
def wordBound : Nat := 1 <<< 63

/-- The value cut to an integer, in a machine word of 64 bits; the least word stands for whatever
does not fit into one. -/
def toWord (r : Binary64) : Int :=
  match r.trunc? with
  | some n => if -wordBound ≤ n ∧ n < wordBound then n else -wordBound
  | none => -wordBound

/-- The greatest integer that is not above the value. -/
def floor? : Binary64 → Option Int
  | finite negative m e =>
    let (n, exact) := cut m e
    some (if negative && !exact then -(n + 1 : Nat) else signed negative n)
  | _ => none

/-- The integer that the value is equal to. -/
def toInt? : Binary64 → Option Int
  | finite negative m e =>
    let (n, exact) := cut m e
    if exact then some (signed negative n) else none
  | _ => none

end Binary64

end Flipbook.Numeric
