import Flipbook.Geometry.Buffer
import Flipbook.Proofs.Outcome
import Mathlib.Algebra.Ring.Int.Defs
import Mathlib.Algebra.Ring.Nat

/-!
# What happens to the points of a buffer

A buffer whose points fit into its columns (`GeometryBuffer.Fits`) is seen as the list of its
points.  The lemmas here say what the parts of a call do to that list and to the room: making room
leaves the points alone (`points_reserve`), writing after it has columns enough, and so points that
make up whole elements are always added behind those that are there (`append_of_dvd`).  The room
grows by doubling, and the doubling ends (`exists_rounds`).
-/

namespace Flipbook

namespace GeometryBuffer

variable {α : Type} {b : GeometryBuffer α}

/-- The points fit into the columns. -/
def Fits (b : GeometryBuffer α) : Prop := b.count ≤ b.capacity

theorem Fits.size_points (h : b.Fits) : b.points.size = b.count := by
  have : b.count ≤ b.columns.size := h
  rw [points, Array.size_extract]
  omega

theorem points_of_columns {head tail : Array (Vec4 α)} (hcolumns : b.columns = head ++ tail)
    (hcount : b.count = head.size) : b.points = head := by
  rw [points, hcolumns, hcount, Array.extract_append_left, Array.extract_size]

/-- There are always some columns, so that a buffer without points counts none. -/
theorem count_of_points_eq_empty (h : b.points = #[]) : b.count = 0 := by
  have hpos : 0 < b.columns.size := b.capacity_pos
  have hsize : b.points.size = 0 := by rw [h]; rfl
  rw [points, Array.size_extract] at hsize
  omega

theorem fits_of_points_eq_empty (h : b.points = #[]) : b.Fits := by
  rw [Fits, count_of_points_eq_empty h]
  exact Nat.zero_le _

/-! ### Clearing and transforming -/

@[simp] theorem points_clear : b.clear.points = #[] := by simp [clear, points]

section Apply

variable [Add α] [Mul α] (m : Matrix4 α)

@[simp] theorem capacity_apply : (b.apply m).capacity = b.capacity := by
  simp only [apply, capacity, points, Array.size_append, Array.size_map, Array.size_extract]
  omega

theorem Fits.apply (h : b.Fits) : (b.apply m).Fits := by
  rw [Fits, capacity_apply]
  exact h

theorem Fits.points_apply (h : b.Fits) : (b.apply m).points = b.points.map m.apply :=
  points_of_columns rfl (by rw [Array.size_map, h.size_points]; rfl)

end Apply

/-! ### Room -/

/-- **The doubling ends**, after as many rounds as find the room too small. -/
theorem exists_rounds (need capacity : Nat) (h : 0 < capacity) :
    ∃ rounds, (∀ i < rounds, capacity * 2 ^ i < need) ∧ need ≤ capacity * 2 ^ rounds ∧
      grownTo need capacity h = capacity * 2 ^ rounds := by
  fun_induction grownTo need capacity h with
  | case1 capacity h hlt ih =>
    obtain ⟨rounds, hbefore, henough, heq⟩ := ih
    have hdouble (i : Nat) : capacity * 2 ^ (i + 1) = 2 * capacity * 2 ^ i := by
      rw [Nat.pow_succ, Nat.mul_comm (2 ^ i), ← Nat.mul_assoc, Nat.mul_comm capacity]
    refine ⟨rounds + 1, fun i hi => ?_, hdouble rounds ▸ henough, hdouble rounds ▸ heq⟩
    cases i with
    | zero => simpa using hlt
    | succ i => exact hdouble i ▸ hbefore i (by omega)
  | case2 capacity h hge => exact ⟨0, by simp, by simpa using hge, by simp⟩

section Reserve

variable [Zero α]

@[simp] theorem kind_reserve (n : Nat) : (b.reserve n).kind = b.kind := by
  unfold reserve; split <;> rfl

@[simp] theorem count_reserve (n : Nat) : (b.reserve n).count = b.count := by
  unfold reserve; split <;> rfl

theorem Fits.points_reserve (h : b.Fits) (n : Nat) : (b.reserve n).points = b.points := by
  unfold reserve
  split
  · rfl
  · exact points_of_columns rfl h.size_points.symm

theorem Fits.capacity_reserve (h : b.Fits) (n : Nat) :
    ∃ rounds, (∀ i < rounds, b.capacity * 2 ^ i < b.count + n) ∧
      b.count + n ≤ b.capacity * 2 ^ rounds ∧
      (b.reserve n).capacity = b.capacity * 2 ^ rounds := by
  unfold reserve
  split
  · rename_i henough
    exact ⟨0, by simp, by simpa using henough, by simp⟩
  · obtain ⟨rounds, hbefore, henough, heq⟩ :=
      exists_rounds (b.count + n) b.capacity b.capacity_pos
    have hgrown : b.capacity ≤ grownTo (b.count + n) b.capacity b.capacity_pos := le_grownTo ..
    have hfits : b.count ≤ b.capacity := h
    refine ⟨rounds, hbefore, henough, heq ▸ ?_⟩
    rw [capacity, Array.size_append, zeroColumns, Array.size_replicate, h.size_points]
    omega

end Reserve

/-! ### Adding points -/

theorem Fits.write_advance (h : b.Fits) {vertices : Array (Vec4 α)}
    (hroom : b.count + vertices.size ≤ b.capacity) :
    ∃ b', b.write vertices = .done b' ∧ b'.kind = b.kind ∧ b'.count = b.count ∧
      b'.capacity = b.capacity ∧ (b'.advance vertices.size).points = b.points ++ vertices := by
  have hsize : (b.points ++ vertices).size = b.count + vertices.size := by
    rw [Array.size_append, h.size_points]
  refine ⟨_, dif_pos hroom, rfl, rfl, ?_, points_of_columns rfl hsize.symm⟩
  simp only [capacity] at hroom ⊢
  rw [Array.size_append, Array.size_extract, hsize]
  omega

/-- **Points that make up whole elements are added behind those that are there**, in room that is
doubled until they have enough. -/
theorem Fits.append_of_dvd [Zero α] (h : b.Fits) {vertices : Array (Vec4 α)}
    (hwhole : vertices.size % b.kind.stride = 0) :
    ∃ b', b.append vertices = .done b' ∧ b'.Fits ∧ b'.kind = b.kind ∧
      b'.points = b.points ++ vertices ∧ b'.count = b.count + vertices.size ∧
      b'.capacity = (b.reserve vertices.size).capacity := by
  have hroom : (b.reserve vertices.size).count + vertices.size ≤
      (b.reserve vertices.size).capacity := by
    obtain ⟨rounds, -, henough, heq⟩ := h.capacity_reserve vertices.size
    rw [count_reserve, heq]
    exact henough
  have hfits : (b.reserve vertices.size).Fits := by unfold Fits; omega
  obtain ⟨b', hwrite, hkind, hcount, hcapacity, hpoints⟩ := hfits.write_advance hroom
  refine ⟨b'.advance vertices.size, ?_, ?_, hkind.trans (kind_reserve _), ?_, ?_, hcapacity⟩
  · rw [append, if_pos hwhole, hwrite, Outcome.done_andThen]
  · show b'.count + vertices.size ≤ b'.capacity
    rw [hcount, hcapacity]
    exact hroom
  · rw [hpoints, h.points_reserve]
  · rw [advance, hcount, count_reserve]

/-- Points that leave an element unfinished are refused, and nothing has changed. -/
theorem append_of_not_dvd [Zero α] {vertices : Array (Vec4 α)}
    (h : vertices.size % b.kind.stride ≠ 0) :
    b.append vertices = .failed b (.geometry (.partialElement b.kind vertices.size)) :=
  if_neg h

end GeometryBuffer

end Flipbook
