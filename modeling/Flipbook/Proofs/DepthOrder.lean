import Flipbook.Raster.Canvas
import Mathlib.Data.Prod.Lex
import Mathlib.Algebra.Order.Group.Int
import Mathlib.Tactic.Common

/-!
# The order of depths

Floats are not ordered linearly: a value that is no number is neither below nor above anything,
and the two zeros are different values of one rank.  `FloatRank.rank?` gives every number a rank in
a linear order such that one float is below another exactly when both are numbers and the rank of
the one is below that of the other (`FloatRank.lt_iff`).  What comparing depths decides is then a
matter of ranks.
-/

namespace Flipbook

/-- Values are compared by the ranks that some of them have. -/
def RankedBy {α K : Type} [LT α] [LinearOrder K] (rank? : α → Option K) : Prop :=
  ∀ a b, a < b ↔ ∃ x y, rank? a = some x ∧ rank? b = some y ∧ x < y

namespace FloatRank

open Float.Model

/-- Ranks of floats: the kind of number, then the exponent, then the mantissa. -/
abbrev Rank : Type := Int ×ₗ (Int ×ₗ Int)

/-- The rank of an unpacked float. -/
def ofUnpacked? : UnpackedFloat → Option Rank
  | .notANumber => none
  | .infinity .negative => some (toLex (-2, toLex (0, 0)))
  | .finite .negative m e _ => some (toLex (-1, toLex (-e, -m)))
  | .zero _ => some (toLex (0, toLex (0, 0)))
  | .finite .positive m e _ => some (toLex (1, toLex (e, m)))
  | .infinity .positive => some (toLex (2, toLex (0, 0)))

/-- The rank of a float. -/
def rank? (a : Float) : Option Rank := ofUnpacked? a.toModel.unpack

/-! ### Comparisons -/

theorem compare_toLex (a b : Int) (c d : Int ×ₗ Int) :
    compare (toLex (a, c) : Rank) (toLex (b, d)) = (compare a b).then (compare c d) := rfl

theorem compare_toLex_pair (a b c d : Int) :
    compare (toLex (a, c) : Int ×ₗ Int) (toLex (b, d)) = (compare a b).then (compare c d) := rfl

theorem compare_neg_int (a b : Int) : compare (-a) (-b) = (compare a b).swap := by
  rcases lt_trichotomy a b with h | rfl | h
  · rw [compare_lt_iff_lt.2 h, compare_gt_iff_gt.2 (by omega)]
    rfl
  · rw [compare_eq_iff_eq.2 rfl, compare_eq_iff_eq.2 rfl]
    rfl
  · rw [compare_gt_iff_gt.2 h, compare_lt_iff_lt.2 (by omega)]
    rfl

theorem compare_natCast (m n : Nat) : compare (m : Int) (n : Int) = compare m n := by
  rcases lt_trichotomy m n with h | rfl | h
  · rw [compare_lt_iff_lt.2 h, compare_lt_iff_lt.2 (by omega)]
  · rw [compare_eq_iff_eq.2 rfl, compare_eq_iff_eq.2 rfl]
  · rw [compare_gt_iff_gt.2 h, compare_gt_iff_gt.2 (by omega)]

/-- Comparing two unpacked floats is comparing their ranks. -/
theorem compare_eq (a b : UnpackedFloat) :
    a.compare b = (ofUnpacked? a).bind fun x => (ofUnpacked? b).map (compare x) := by
  rcases a with (_ | _) | _ | _ | ⟨_ | _, m₁, e₁, _⟩ <;>
    rcases b with (_ | _) | _ | _ | ⟨_ | _, m₂, e₂, _⟩ <;> try rfl
  case finite.negative.finite.negative =>
    -- of two negative numbers the one with the greater magnitude is below the other
    change some ((compare e₁ e₂).then (compare m₁ m₂)).swap =
      some (compare (toLex (-1, toLex (-e₁, -m₁)) : Rank) (toLex (-1, toLex (-e₂, -m₂))))
    rw [compare_toLex, compare_toLex_pair, compare_neg_int e₁ e₂, compare_neg_int m₁ m₂,
      compare_natCast, Ordering.swap_then]
    rfl
  case finite.positive.finite.positive =>
    change some ((compare e₁ e₂).then (compare m₁ m₂)) =
      some (compare (toLex (1, toLex (e₁, m₁)) : Rank) (toLex (1, toLex (e₂, m₂))))
    rw [compare_toLex, compare_toLex_pair, compare_natCast]
    rfl

theorem compare_eq_some_iff (a b : UnpackedFloat) (o : Ordering) : a.compare b = some o ↔
    ∃ x y, ofUnpacked? a = some x ∧ ofUnpacked? b = some y ∧ compare x y = o := by
  rw [compare_eq]
  cases ofUnpacked? a <;> cases ofUnpacked? b <;> simp

/-! ### Floats -/

/-- **One float is below another when both are numbers and its rank is below the other's.** -/
theorem lt_iff (a b : Float) :
    a < b ↔ ∃ x y, rank? a = some x ∧ rank? b = some y ∧ x < y := by
  have hcompare : a < b ↔ a.toModel.unpack.compare b.toModel.unpack = some .lt := by
    change decide ((a.toModel.unpack.compare b.toModel.unpack == some .lt) = true) = true ↔ _
    rw [decide_eq_true_iff, beq_iff_eq]
  simp only [hcompare, compare_eq_some_iff, compare_lt_iff_lt]
  rfl

theorem not_lt_self (a : Float) : ¬ a < a := by
  intro hlt
  obtain ⟨x, y, hx, hy, hxy⟩ := (lt_iff a a).1 hlt
  obtain rfl : x = y := Option.some.inj (hx.symm.trans hy)
  exact lt_irrefl x hxy

theorem beq_iff (a b : Float) : (a == b) = true ↔ ∃ x, rank? a = some x ∧ rank? b = some x := by
  have hcompare : (a == b) = true ↔ a.toModel.unpack.compare b.toModel.unpack = some .eq := by
    change (a.toModel.unpack.compare b.toModel.unpack == some .eq) = true ↔ _
    rw [beq_iff_eq]
  simp only [hcompare, compare_eq_some_iff, compare_eq_iff_eq]
  constructor
  · rintro ⟨x, _, hx, hy, rfl⟩
    exact ⟨x, hx, hy⟩
  · rintro ⟨x, hx, hy⟩
    exact ⟨x, x, hx, hy, rfl⟩

theorem le_iff (a b : Float) :
    a ≤ b ↔ ∃ x y, rank? a = some x ∧ rank? b = some y ∧ x ≤ y := by
  have hcompare : a ≤ b ↔ (a.toModel.unpack.compare b.toModel.unpack).any (·.isLE) = true :=
    decide_eq_true_iff
  have hle (x y : Rank) : (compare x y).isLE = true ↔ x ≤ y := by
    rw [← compare_le_iff_le]
    cases compare x y <;> simp
  rw [hcompare, compare_eq, rank?, rank?]
  cases ofUnpacked? a.toModel.unpack <;> cases ofUnpacked? b.toModel.unpack <;> simp [hle]

theorem isNaN_iff (a : Float) : a.isNaN = true ↔ rank? a = none := by
  change a.toModel.unpack.isNaN = true ↔ ofUnpacked? a.toModel.unpack = none
  cases a.toModel.unpack with
  | notANumber => exact iff_of_true rfl rfl
  | infinity s | finite s =>
    cases s <;> exact iff_of_false Bool.false_ne_true (Option.some_ne_none _)
  | zero => exact iff_of_false Bool.false_ne_true (Option.some_ne_none _)

theorem exists_rank {a : Float} (h : a.isNaN = false) : ∃ x, rank? a = some x := by
  cases hrank : rank? a with
  | none =>
    rw [(isNaN_iff a).2 hrank] at h
    cases h
  | some x => exact ⟨x, rfl⟩

theorem rankedBy : RankedBy rank? := lt_iff

end FloatRank

end Flipbook
