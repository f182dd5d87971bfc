import Flipbook.Value

/-!
# The order of scalars

Scalars of one kind are ordered: numbers by their exact values, texts by code points, byte strings
byte by byte, dates and moments in time.  Scalars of different kinds have no order.
-/

namespace Flipbook

namespace Scalar

/-- The numbers among the scalars, whole ones exactly. -/
def number? : Scalar → Option (Int ⊕ Float)
  | bool b => some (.inl (if b then 1 else 0))
  | int n => some (.inl n)
  | float x => some (.inr x)
  | _ => none

/-- The order of a whole number and a float. -/
def wholeLess (m : Int) (y : Float) : Bool :=
  match Numeric.Binary64.read y with
  | .nan => false
  | .infinite negative => !negative
  | r => match r.toInt?, r.floor? with
    | some n, _ => m < n
    | none, some n => m ≤ n
    | none, none => false

/-- The order of a float and a whole number. -/
def floatLess (x : Float) (n : Int) : Bool :=
  match Numeric.Binary64.read x with
  | .nan => false
  | .infinite negative => negative
  | r => match r.floor? with
    | some m => m < n
    | none => false

/-- The order of numbers by value. -/
def numberLess : Int ⊕ Float → Int ⊕ Float → Bool
  | .inl m, .inl n => m < n
  | .inr x, .inr y => x < y
  | .inl m, .inr y => wholeLess m y
  | .inr x, .inl n => floatLess x n

/-- The order of two scalars, where they have one. -/
def less? (a b : Scalar) : Option Bool :=
  match a, b with
  | str s, str t => some (s < t)
  | bytes s, bytes t => some (s.map UInt8.toNat < t.map UInt8.toNat)
  | date d, date e => some (d.dayNumber < e.dayNumber)
  | moment m, moment n =>
    if m.offset.isSome = n.offset.isSome then some (m.instant < n.instant) else none
  | a, b => match number? a, number? b with
    | some x, some y => some (numberLess x y)
    | _, _ => none

end Scalar

end Flipbook
