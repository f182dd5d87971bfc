import Flipbook.Proofs.ClosedMesh
import Mathlib.Algebra.Order.Field.Basic
import Mathlib.Analysis.SpecialFunctions.Trigonometric.Basic
import Mathlib.Tactic.LinearCombination

/-!
# Angles in exact arithmetic

What is proved of curved surfaces holds wherever sine and cosine obey the laws of trigonometry
(`Circular.Lawful`); the real numbers are one such place (`Circular.lawful_real`).  The angles of a
grid are multiples of one step.  A full turn closes: the angle of the first row is, as far as sine
and cosine can tell, one step after that of the last (`Circular.Lawful.gap_turn`), so no row of a
grid is an exception.
-/

namespace Flipbook

namespace Mesh

variable {α : Type} [Field α] [Circular α]

theorem turnAngle_zero (n : Nat) : (turnAngle n 0 : α) = 0 := by simp [turnAngle]

theorem turnAngle_self [CharZero α] {n : Nat} (hn : n ≠ 0) :
    (turnAngle n n : α) = 2 * Circular.pi := by
  have hn' : (n : α) ≠ 0 := Nat.cast_ne_zero.2 hn
  rw [turnAngle, mul_div_cancel_right₀ _ hn', Nat.cast_ofNat]

theorem turnAngle_succ (n i : Nat) :
    (turnAngle n (i + 1) : α) = turnAngle n i + 2 * Circular.pi / n := by
  unfold turnAngle
  push_cast
  ring

theorem halfTurnAngle_succ (n j : Nat) :
    (halfTurnAngle n (j + 1) : α) = halfTurnAngle n j + Circular.pi / n := by
  unfold halfTurnAngle
  push_cast
  ring

end Mesh

namespace Circular

/-- Sine and cosine obey the laws of exact trigonometry. -/
structure Lawful (α : Type) [Field α] [LinearOrder α] [Circular α] : Prop where
  sin_add (x y : α) : sin (x + y) = sin x * cos y + cos x * sin y
  cos_add (x y : α) : cos (x + y) = cos x * cos y - sin x * sin y
  sin_sq_add_cos_sq (x : α) : sin x ^ 2 + cos x ^ 2 = 1
  pi_pos : (0 : α) < pi
  sin_pi : sin (pi : α) = 0
  /-- The sine is positive within half a turn. -/
  sin_pos (x : α) : 0 < x → x < pi → 0 < sin x

namespace Lawful

open Mesh Wheel

variable {α : Type} [Field α] [LinearOrder α] [Circular α] (lawful : Lawful α) {n i j : Nat}

include lawful

/-! ### Periods and bounds -/

theorem sin_turn : sin (2 * pi : α) = 0 := by
  rw [two_mul, lawful.sin_add, lawful.sin_pi]
  ring

theorem cos_turn : cos (2 * pi : α) = 1 := by
  have hsq := lawful.sin_sq_add_cos_sq (pi : α)
  rw [lawful.sin_pi] at hsq
  rw [two_mul, lawful.cos_add, lawful.sin_pi]
  linear_combination hsq

theorem sin_add_turn (x : α) : sin (x + 2 * pi) = sin x := by
  rw [lawful.sin_add, lawful.sin_turn, lawful.cos_turn]
  ring

theorem cos_add_turn (x : α) : cos (x + 2 * pi) = cos x := by
  rw [lawful.cos_add, lawful.sin_turn, lawful.cos_turn]
  ring

variable [IsStrictOrderedRing α]

theorem neg_one_le_cos (x : α) : -1 ≤ cos x := by
  have hsq : cos x ^ 2 ≤ 1 := by
    have := lawful.sin_sq_add_cos_sq x
    have := sq_nonneg (sin x)
    linarith
  exact (abs_le.1 ((sq_le_one_iff_abs_le_one _).1 hsq)).1

theorem sin_halfTurn_pos (hj : 0 < j) (hn : j < n) : 0 < sin (pi * j / n : α) := by
  have hpi : (0 : α) < pi := lawful.pi_pos
  have hj' : (0 : α) < j := Nat.cast_pos.2 hj
  have hn' : (0 : α) < n := Nat.cast_pos.2 (hj.trans hn)
  refine lawful.sin_pos _ (by positivity) ?_
  rw [div_lt_iff₀ hn']
  exact mul_lt_mul_of_pos_left (Nat.cast_lt.2 hn) hpi

theorem sin_step_pos (hn : 3 ≤ n) : 0 < sin (2 * pi / n : α) := by
  have h := lawful.sin_halfTurn_pos (j := 2) (n := n) (by decide) (by omega)
  rwa [Nat.cast_ofNat, mul_comm] at h

/-! ### One step on -/

/-- The sine of the step from one angle to a later one, by the sines and cosines of both. -/
theorem gap_add (x y : α) : cos x * sin (x + y) - sin x * cos (x + y) = sin y := by
  rw [lawful.sin_add, lawful.cos_add]
  linear_combination sin y * lawful.sin_sq_add_cos_sq x

theorem gap_halfTurn (n j : Nat) :
    cos (halfTurnAngle n j : α) * sin (halfTurnAngle n (j + 1) : α) -
      sin (halfTurnAngle n j : α) * cos (halfTurnAngle n (j + 1) : α) = sin (pi / n : α) := by
  rw [halfTurnAngle_succ, lawful.gap_add]

/-- Sine and cosine of the next row are those of one step on, also where the first row follows the
last. -/
theorem turnAngle_next (hi : i < n) :
    sin (turnAngle n (next n i) : α) = sin (turnAngle n i + 2 * pi / n : α) ∧
      cos (turnAngle n (next n i) : α) = cos (turnAngle n i + 2 * pi / n : α) := by
  rw [← turnAngle_succ]
  by_cases hlast : i + 1 = n
  · have hturn : (turnAngle n n : α) = 0 + 2 * pi := by
      rw [turnAngle_self (by omega), zero_add]
    rw [next_eq hi, if_pos hlast, hlast, turnAngle_zero, hturn, lawful.sin_add_turn,
      lawful.cos_add_turn]
    exact ⟨rfl, rfl⟩
  · rw [next_eq hi, if_neg hlast]
    exact ⟨rfl, rfl⟩

/-- **One step leads from every row of a full turn to the next, and from the last to the first.** -/
theorem gap_turn (hi : i < n) :
    cos (turnAngle n i : α) * sin (turnAngle n (next n i) : α) -
      sin (turnAngle n i : α) * cos (turnAngle n (next n i) : α) = sin (2 * pi / n : α) := by
  obtain ⟨hsin, hcos⟩ := lawful.turnAngle_next hi
  rw [hsin, hcos, lawful.gap_add]

end Lawful

/-! ### Real numbers -/

/-- The circular functions of real numbers. -/
@[reducible] noncomputable def real : Circular ℝ where
  pi := Real.pi
  degree := Real.pi / 180
  cos := Real.cos
  sin := Real.sin

theorem lawful_real : letI := real; Lawful ℝ :=
  letI := real
  { sin_add := Real.sin_add
    cos_add := Real.cos_add
    sin_sq_add_cos_sq := Real.sin_sq_add_cos_sq
    pi_pos := Real.pi_pos
    sin_pi := Real.sin_pi
    sin_pos := fun _ => Real.sin_pos_of_pos_of_lt_pi }

end Circular

end Flipbook
