import Flipbook.Raster.Wireframe
import Mathlib.Algebra.Order.Floor.Ring
import Mathlib.Algebra.Order.Ring.Abs
import Mathlib.Data.Rat.Floor
import Mathlib.Tactic.FieldSimp
import Mathlib.Tactic.Linarith
import Mathlib.Tactic.Ring

/-!
# Segments in exact arithmetic

The rational numbers, together with a depth that lies behind all of them, are numbers that segments
are sampled with (`Exact`).  On them a segment whose ends are rational is sampled without rounding:
the fragment of every sample is known in closed form (`Segment.fragments_exact`), and its column and
its height go from the pixel of the one end to that of the other without ever turning back
(`Segment.pixelAt_mono`).
-/

namespace Flipbook

/-- The rational numbers and a depth behind all of them. -/
def Exact : Type := WithBot ℚ

namespace Exact

instance : LinearOrder Exact := inferInstanceAs (LinearOrder (WithBot ℚ))

instance : Farthest Exact := ⟨(⊥ : WithBot ℚ)⟩

/-- A rational number. -/
def number (q : ℚ) : Exact := WithBot.some q

/-- What is computed from two numbers; the farthest depth stays what it is. -/
def combine (f : ℚ → ℚ → ℚ) : Exact → Exact → Exact := WithBot.map₂ f

instance : Zero Exact := ⟨number 0⟩

instance : NatCast Exact := ⟨fun n => number n⟩

instance : Add Exact := ⟨combine (· + ·)⟩

instance : Sub Exact := ⟨combine (· - ·)⟩

instance : Mul Exact := ⟨combine (· * ·)⟩

instance : Div Exact := ⟨combine (· / ·)⟩

instance : Neg Exact := ⟨WithBot.map (- ·)⟩

instance : Floor Exact where
  floor?
    | some q => some ⌊q⌋
    | none => none
  isInfinite
    | some _ => false
    | none => true
  counter
    | some q => ⌊q⌋
    | none => 0

variable (a b : ℚ)

theorem number_zero : (0 : Exact) = number 0 := rfl

theorem number_natCast (n : ℕ) : (n : Exact) = number n := rfl

@[simp] theorem number_add : number a + number b = number (a + b) := rfl

@[simp] theorem number_div : number a / number b = number (a / b) := rfl

@[simp] theorem number_neg : -number a = number (-a) := rfl

@[simp] theorem number_lt_number : number a < number b ↔ a < b := WithBot.coe_lt_coe

@[simp] theorem floor?_number : Floor.floor? (number a) = some ⌊a⌋ := rfl

@[simp] theorem counter_number : Floor.counter (number a) = ⌊a⌋ := rfl

end Exact

namespace Segment

open Exact

/-- A segment whose ends are rational, as one of exact numbers. -/
def exact (s : Segment ℚ) : Segment Exact := ⟨s.start.map number, s.stop.map number⟩

/-- The longer of the two extents on the screen. -/
def extent (s : Segment ℚ) : ℚ := max |s.stop.x - s.start.x| |s.stop.y - s.start.y|

/-- The number of steps between the samples: the whole units of the extent, and at least one. -/
def stepCount (s : Segment ℚ) : ℕ := max ⌊s.extent⌋.toNat 1

/-- The coordinate after `t` of `n` steps from `a` to `b`. -/
def along (a b : ℚ) (n t : ℕ) : ℚ := a + (b - a) * (t / n)

/-- The pixel next to the coordinate after `t` of `n` steps from `a` to `b`. -/
def pixelAt (a b : ℚ) (n t : ℕ) : ℤ := ⌊along a b n t + 1 / 2⌋

/-- The fragment after `t` steps. -/
def fragmentAt (s : Segment ℚ) (color : Rgb) (t : ℕ) : Fragment Exact where
  column := pixelAt s.start.x s.stop.x s.stepCount t
  height := pixelAt s.start.y s.stop.y s.stepCount t
  depth := number (along s.start.z s.stop.z s.stepCount t)
  color := color

/-! ### Sampling -/

theorem magnitude_number (a : ℚ) : magnitude (number a) = number |a| := by
  rw [magnitude, number_zero, number_neg]
  by_cases ha : a < 0
  · rw [if_pos ((number_lt_number ..).2 ha), abs_of_neg ha]
  · rw [if_neg (mt (number_lt_number ..).1 ha), abs_of_nonneg (not_lt.1 ha)]

theorem larger_number (a b : ℚ) : larger (number a) (number b) = number (max a b) := by
  rw [larger]
  by_cases hab : a < b
  · rw [if_pos ((number_lt_number ..).2 hab), max_eq_right hab.le]
  · rw [if_neg (mt (number_lt_number ..).1 hab), max_eq_left (not_lt.1 hab)]

theorem pixel?_number (a : ℚ) : pixel? (number a) = some ⌊a + 1 / 2⌋ := by
  rw [pixel?, number_natCast, number_natCast, number_div, number_add, floor?_number, Nat.cast_one,
    Nat.cast_ofNat]

theorem steps_exact (s : Segment ℚ) : s.exact.steps = s.stepCount := by
  have hx : (s.exact.stop - s.exact.start).x = number (s.stop.x - s.start.x) := rfl
  have hy : (s.exact.stop - s.exact.start).y = number (s.stop.y - s.start.y) := rfl
  unfold steps
  simp only [hx, hy, magnitude_number, larger_number, counter_number]
  rfl

theorem fragment?_number (color : Rgb) (x y z : ℚ) :
    fragment? color ⟨number x, number y, number z⟩ =
      some ⟨⌊x + 1 / 2⌋, ⌊y + 1 / 2⌋, number z, color⟩ := by
  simp only [fragment?, pixel?_number]
  rfl

theorem fragment?_exact (s : Segment ℚ) (color : Rgb) (t : ℕ) :
    fragment? color (s.exact.sample s.stepCount t) = some (s.fragmentAt color t) :=
  fragment?_number ..

/-- **The fragments of a segment, sample by sample.** -/
theorem fragments_exact (s : Segment ℚ) (color : Rgb) :
    s.exact.fragments color = (List.range (s.stepCount + 1)).map (s.fragmentAt color) := by
  rw [fragments, steps_exact, ← List.filterMap_eq_map]
  exact List.filterMap_congr fun t _ => s.fragment?_exact color t

theorem stepCount_pos (s : Segment ℚ) : 0 < s.stepCount := Nat.lt_of_lt_of_le Nat.one_pos
  (Nat.le_max_right ..)

theorem extent_lt (s : Segment ℚ) : s.extent < s.stepCount + 1 := by
  have hfloor : ⌊s.extent⌋ ≤ s.stepCount := by
    have := Int.self_le_toNat ⌊s.extent⌋
    have : ⌊s.extent⌋.toNat ≤ s.stepCount := Nat.le_max_left ..
    omega
  calc s.extent < ⌊s.extent⌋ + 1 := Int.lt_floor_add_one _
    _ ≤ s.stepCount + 1 := by
      have : (⌊s.extent⌋ : ℚ) ≤ s.stepCount := by exact_mod_cast hfloor
      linarith

/-! ### Going along a coordinate -/

variable {a b : ℚ} {n t : ℕ}

@[simp] theorem along_zero (a b : ℚ) (n : ℕ) : along a b n 0 = a := by simp [along]

theorem along_last (a b : ℚ) (hn : 0 < n) : along a b n n = b := by
  have hn' : (n : ℚ) ≠ 0 := by exact_mod_cast hn.ne'
  rw [along, div_self hn']
  ring

theorem fragment?_start (s : Segment ℚ) (color : Rgb) :
    fragment? color s.exact.start = some (s.fragmentAt color 0) := by
  have hstart : s.exact.start = ⟨number s.start.x, number s.start.y, number s.start.z⟩ := rfl
  simp only [hstart, fragment?_number, fragmentAt, pixelAt, along_zero]

theorem fragment?_stop (s : Segment ℚ) (color : Rgb) :
    fragment? color s.exact.stop = some (s.fragmentAt color s.stepCount) := by
  have hstop : s.exact.stop = ⟨number s.stop.x, number s.stop.y, number s.stop.z⟩ := rfl
  simp only [hstop, fragment?_number, fragmentAt, pixelAt, along_last _ _ s.stepCount_pos]

theorem along_succ (a b : ℚ) (n t : ℕ) : along a b n (t + 1) = along a b n t + (b - a) / n := by
  unfold along
  push_cast
  ring

/-- The steps from the other end are the same steps, counted backwards. -/
theorem along_swap (a b : ℚ) (hn : 0 < n) (ht : t ≤ n) : along b a n (n - t) = along a b n t := by
  have hn' : (n : ℚ) ≠ 0 := by exact_mod_cast hn.ne'
  unfold along
  rw [Nat.cast_sub ht]
  field_simp
  ring

theorem pixelAt_swap (a b : ℚ) (hn : 0 < n) (ht : t ≤ n) :
    pixelAt b a n (n - t) = pixelAt a b n t := by
  rw [pixelAt, along_swap a b hn ht, pixelAt]

theorem along_le_succ (hab : a ≤ b) (n t : ℕ) : along a b n t ≤ along a b n (t + 1) := by
  rw [along_succ]
  have : 0 ≤ (b - a) / n := div_nonneg (by linarith) (Nat.cast_nonneg n)
  linarith

/-- Towards the greater coordinate the pixels do not turn back. -/
theorem pixelAt_mono (hab : a ≤ b) (n : ℕ) {t' : ℕ} (h : t ≤ t') :
    pixelAt a b n t ≤ pixelAt a b n t' := by
  have hstep (t : ℕ) : pixelAt a b n t ≤ pixelAt a b n (t + 1) :=
    Int.floor_mono (by linarith [along_le_succ hab n t])
  exact monotone_nat_of_le_succ hstep h

end Segment

end Flipbook
