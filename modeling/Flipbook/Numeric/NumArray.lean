import Flipbook.Numeric.Scalar
import Flipbook.Value.Conversion

/-!
# Arrays of numbers with a shape

A nested list of numbers is read as an array: its shape, and its entries row by row.  Two arrays
are combined when their shapes agree from the last dimension on, where a dimension of one and a
missing one are repeated as often as needed.
-/

namespace Flipbook

/-- Entries in row order, with the sizes of all dimensions. -/
structure NumArray (α : Type) where
  shape : List Nat
  entries : Array α
  deriving DecidableEq, Repr

namespace NumArray

variable {α β γ : Type}

/-- The number of entries of a shape. -/
def volume (shape : List Nat) : Nat := shape.foldl (· * ·) 1

/-- The array with all entries equal. -/
def fill (shape : List Nat) (x : α) : NumArray α := ⟨shape, Array.replicate (volume shape) x⟩

/-- The array with a single entry and no dimension. -/
def scalar (x : α) : NumArray α := ⟨[], #[x]⟩

/-- The array of a list of numbers. -/
def vector (xs : List α) : NumArray α := ⟨[xs.length], xs.toArray⟩

/-- An array of at least one dimension with the same entries. -/
def atLeastOne (a : NumArray α) : NumArray α :=
  if a.shape.isEmpty then { a with shape := [1] } else a

/-! ### Broadcasting -/

/-- The size that two dimensions are repeated to, if they agree. -/
def commonSize (m n : Nat) : Option Nat :=
  if m = n then some m else if m = 1 then some n else if n = 1 then some m else none

/-- The common shape of two shapes given from the last dimension on. -/
def commonReversed : List Nat → List Nat → Option (List Nat)
  | [], t => some t
  | s, [] => some s
  | m :: s, n :: t => do return (← commonSize m n) :: (← commonReversed s t)

/-- The shape that two shapes are repeated to. -/
def commonShape (s t : List Nat) : Option (List Nat) :=
  (commonReversed s.reverse t.reverse).map List.reverse

/-- Where an entry of the repeated array comes from: `sizes` are the dimensions of the repeated
array and `own` those of the array itself, both from the last one on; `i` is the place in the
repeated array and `weight` the distance of neighbours in the array itself. -/
def placeIn : (sizes own : List Nat) → (i weight : Nat) → Nat
  | n :: sizes, m :: own, i, weight =>
    (if m = 1 then 0 else i % n * weight) + placeIn sizes own (i / n) (weight * m)
  | _, _, _, _ => 0

/-- The place in an array of shape `own` that entry `i` of its repetition to `shape` comes from. -/
def sourceIndex (shape own : List Nat) (i : Nat) : Nat :=
  placeIn shape.reverse own.reverse i 1

/-- Two arrays combined entry by entry. -/
def zipWith? (f : α → β → γ) (a : NumArray α) (b : NumArray β) : Option (NumArray γ) := do
  let shape ← commonShape a.shape b.shape
  let entry (i : Nat) : Option γ := do
    return f (← a.entries[sourceIndex shape a.shape i]?) (← b.entries[sourceIndex shape b.shape i]?)
  return ⟨shape, (Array.range (volume shape)).filterMap entry⟩

/-! ### Products -/

/-- The dimensions before the last two, and the last two. -/
def splitLastTwo (shape : List Nat) : Option (List Nat × Nat × Nat) :=
  match shape.reverse with
  | n :: m :: rest => some (rest.reverse, m, n)
  | _ => none

/-- The product of arrays of matrices.  A list of numbers is a row on the left and a column on the
right, and that dimension is missing in the product.  There is none for single numbers, nor where
the sizes do not fit. -/
def mul? [Zero α] [Add α] [Mul α] (a b : NumArray α) : Option (NumArray α) := do
  let (rowVector, shapeA) := match a.shape with
    | [n] => (true, [1, n])
    | s => (false, s)
  let (columnVector, shapeB) := match b.shape with
    | [n] => (true, [n, 1])
    | s => (false, s)
  let (batchA, m, k) ← splitLastTwo shapeA
  let (batchB, k', n) ← splitLastTwo shapeB
  if k ≠ k' then none
  let batch ← commonShape batchA batchB
  let entry (i : Nat) : α :=
    let block := i / (m * n)
    let row := i / n % m
    let column := i % n
    let startA := sourceIndex batch batchA block * (m * k) + row * k
    let startB := sourceIndex batch batchB block * (k * n) + column
    let products := (List.range k).map fun t =>
      a.entries.getD (startA + t) 0 * b.entries.getD (startB + t * n) 0
    match products with
    | [] => 0
    | p :: ps => ps.foldl (· + ·) p
  let shape := batch ++ (if rowVector then [] else [m]) ++ (if columnVector then [] else [n])
  return ⟨shape, (Array.range (volume shape)).map entry⟩

/-! ### Arrays from nested lists -/

/-- The shape that all items of a sequence share, if they do. -/
def sharedShape : List (Option (List Nat)) → Option (List Nat)
  | [] => some []
  | [s] => s
  | s :: rest => do
    let shape ← s
    if (← sharedShape rest) = shape then some shape else none

mutual

/-- The shape of a nested sequence, unless its items have different ones. -/
def shapeOf? : Value → Option (List Nat)
  | .list items | .tuple items =>
    (sharedShape (shapesOf items)).map (items.length :: ·)
  | _ => some []

/-- The shapes of all items. -/
def shapesOf : List Value → List (Option (List Nat))
  | [] => []
  | v :: vs => shapeOf? v :: shapesOf vs

end

mutual

/-- The values at the ends of a nested sequence, in order. -/
def leaves : Value → List Value
  | .list items | .tuple items => leavesOf items
  | v => [v]

/-- The values at the ends of all items. -/
def leavesOf : List Value → List Value
  | [] => []
  | v :: vs => leaves v ++ leavesOf vs

end

/-- A missing value is no number, any other value is read as a float. -/
def leafToFloat : Value → Except ConversionFault Float
  | .null => .ok (0.0 / 0.0)
  | v => v.toFloat

/-- The array of a nested sequence of numbers. -/
def ofValue (v : Value) : Except ConversionFault (NumArray Float) :=
  match shapeOf? v with
  | none => .error .malformed
  | some shape => do return ⟨shape, (← (leaves v).mapM leafToFloat).toArray⟩

end NumArray

end Flipbook
