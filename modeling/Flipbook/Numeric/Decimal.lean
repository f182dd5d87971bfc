import Flipbook.Numeric.Binary64

/-!
# Shortest decimals

The text of a float has the fewest digits that read back as the same float, and of those the
decimal nearest to it.  `Decimal.shortest` finds them by exact integer arithmetic; `DecimalStyle`
says how the digits are laid out.
-/

namespace Flipbook.Numeric

/-- The number `digits · 10 ^ exponent`. -/
structure Decimal where
  /-- All digits, as one number. -/
  digits : Nat
  /-- The power of ten of the last digit. -/
  exponent : Int
  deriving DecidableEq, Repr

/-- The numbers that round to one float, over a common denominator: all between
`(value - below) / unit` and `(value + above) / unit`. -/
structure RoundingInterval where
  /-- The float itself. -/
  value : Nat
  /-- The way to the lower end. -/
  below : Nat
  /-- The way to the upper end. -/
  above : Nat
  /-- The common denominator. -/
  unit : Nat
  /-- The ends belong to the interval. -/
  closed : Bool

namespace RoundingInterval

/-- The interval of `mantissa · 2 ^ exponent`.  Below a power of two the floats lie twice as
close, except at the smallest exponent; a half goes to the even mantissa. -/
def ofBinary (mantissa : Nat) (exponent : Int) : RoundingInterval :=
  let shift := (2 - exponent).toNat
  let scale := 1 <<< (exponent + shift - 2).toNat
  { value := 4 * mantissa * scale
    below := if mantissa = 1 <<< 52 && exponent ≠ -1074 then scale else 2 * scale
    above := 2 * scale
    unit := 1 <<< shift
    closed := mantissa % 2 == 0 }

/-- The number `n / d`, over the denominator of the interval, lies in it. -/
def contains (i : RoundingInterval) (n d : Nat) : Bool :=
  let low := (i.value - i.below) * d
  let high := (i.value + i.above) * d
  if i.closed then low ≤ n && n ≤ high else low < n && n < high

end RoundingInterval

namespace Decimal

/-- How often `n` can be multiplied by ten before it reaches `d`, counted with fuel. -/
def leadingZeros : Nat → Nat → Nat → Nat
  | 0, _, _ => 0
  | fuel + 1, n, d => if n < d then leadingZeros fuel (10 * n) d + 1 else 0

/-- The power of ten of the first digit of `n / d`. -/
def firstDigitExponent (n d : Nat) : Int :=
  if d ≤ n then ((n / d).repr.length : Int) - 1 else -(leadingZeros 400 n d : Int)

/-- The digits without the zeros at the end. -/
def strip : Nat → Decimal → Decimal
  | 0, x => x
  | fuel + 1, x =>
    if x.digits % 10 = 0 && x.digits ≠ 0 then strip fuel ⟨x.digits / 10, x.exponent + 1⟩ else x

/-- The best decimal of the interval whose last digit has the power `exponent` of ten: of the two
neighbours of the value the nearer one, of two equally near the even one. -/
def onGrid? (i : RoundingInterval) (exponent : Int) : Option Decimal :=
  let up := Nat.pow 10 exponent.toNat
  let down := Nat.pow 10 (-exponent).toNat
  let step := i.unit * up
  let low := i.value * down / step
  let rest := i.value * down - low * step
  let lowFits := i.contains (low * step) down
  let highFits := i.contains ((low + 1) * step) down
  let lowNearer := 2 * rest < step || (2 * rest == step && low % 2 == 0)
  match lowFits, highFits with
  | true, true => some ⟨if lowNearer then low else low + 1, exponent⟩
  | true, false => some ⟨low, exponent⟩
  | false, true => some ⟨low + 1, exponent⟩
  | false, false => none

/-- The shortest decimal that reads back as `mantissa · 2 ^ exponent`. -/
def shortest (mantissa : Nat) (exponent : Int) : Decimal :=
  let i := RoundingInterval.ofBinary mantissa exponent
  let first := firstDigitExponent i.value i.unit
  let grid (count : Nat) : Option Decimal := onGrid? i (first - count)
  strip 20 ((List.range 17).findSome? grid |>.getD ⟨i.value / i.unit, 0⟩)

end Decimal

/-- How a decimal is laid out. -/
structure DecimalStyle where
  /-- The least power of ten of a first digit that is written without an exponent. -/
  lowest : Int
  /-- The greatest such power. -/
  highest : Int
  /-- The least number of digits of an exponent. -/
  exponentWidth : Nat

namespace DecimalStyle

/-- Digits with a point after the first `whole` of them, and at least one digit on both sides. -/
def positional (digits : List Char) (whole : Int) : String :=
  let n := whole.toNat
  let before := if n = 0 then ['0'] else digits.take n ++ List.replicate (n - digits.length) '0'
  let after := List.replicate (-whole).toNat '0' ++ digits.drop n
  String.ofList (before ++ '.' :: (if after.isEmpty then ['0'] else after))

/-- One digit, the others after a point, and the exponent with its sign. -/
def scientific (style : DecimalStyle) (digits : List Char) (first : Int) : String :=
  let fraction := if digits.length ≤ 1 then [] else '.' :: digits.drop 1
  let exponent := first.natAbs.repr.toList
  let padding := List.replicate (style.exponentWidth - exponent.length) '0'
  let sign := if first < 0 then '-' else '+'
  String.ofList (digits.take 1 ++ fraction ++ 'e' :: sign :: padding ++ exponent)

/-- The text of a positive decimal. -/
def layout (style : DecimalStyle) (x : Decimal) : String :=
  let digits := x.digits.repr.toList
  let first := x.exponent + digits.length - 1
  if style.lowest ≤ first && first ≤ style.highest then positional digits (first + 1)
  else style.scientific digits first

/-- The text of a float; zero keeps its sign. -/
def format (style : DecimalStyle) (x : Float) : String :=
  match Binary64.read x with
  | .nan => "nan"
  | .infinite negative => if negative then "-inf" else "inf"
  | .finite negative m e =>
    let sign := if negative then "-" else ""
    sign ++ (if m = 0 then "0.0" else style.layout (Decimal.shortest m e))

end DecimalStyle

/-- Floats are shown without an exponent from 0.0001 up to below 10¹⁶, and exponents have at least
two digits. -/
def shownStyle : DecimalStyle := ⟨-4, 15, 2⟩

/-- The text of a float in messages. -/
def showFloat (x : Float) : String :=
  shownStyle.format x

end Flipbook.Numeric
