import Flipbook.Mesh.Box
import Flipbook.Mesh.Round
import Mathlib.Data.List.Basic
import Mathlib.Tactic.Common

/-!
# The number of points of a mesh

Every corner of a triangulation is a place of its grid (`Triangulation.lt_of_mem_corners`), so a
mesh has one point for every corner and none is lost on the way (`Triangulation.size_mesh`): the
point of its place (`Triangulation.IsGrid.toList_mesh`).  The corners come in threes; hence the
points of boxes, spheres and tori make up whole triangles.
-/

namespace Flipbook

namespace Triangulation

variable (t : Triangulation)

theorem cells_le : t.cells ≤ t.columns := by
  unfold cells; split <;> omega

theorem three_dvd_length_side (skip : Bool) (a b c : Place) :
    3 ∣ (if skip = true then [] else t.triangle a b c).length := by
  cases skip
  · simp only [Bool.false_eq_true, ↓reduceIte, triangle]
    split <;> simp
  · simp

theorem three_dvd_length_cellCorners (i j : Nat) : 3 ∣ (t.cellCorners i j).length := by
  simp only [cellCorners, List.length_append]
  exact Nat.dvd_add (t.three_dvd_length_side ..) (t.three_dvd_length_side ..)

theorem three_dvd_length_flatMap {ι β : Type} (is : List ι) (f : ι → List β)
    (h : ∀ i, 3 ∣ (f i).length) : 3 ∣ (is.flatMap f).length := by
  induction is with
  | nil => simp
  | cons i is ih => rw [List.flatMap_cons, List.length_append]; exact Nat.dvd_add (h i) ih

theorem three_dvd_length_corners : 3 ∣ t.corners.length :=
  three_dvd_length_flatMap _ _ fun _ => three_dvd_length_flatMap _ _ fun _ =>
    t.three_dvd_length_cellCorners ..

variable {t}

theorem lt_of_mem_cellCorners {i j : Nat} (hi : i < t.rows) (hj : j < t.columns) {p : Place}
    (hp : p ∈ t.cellCorners i j) : p.1 < t.rows ∧ p.2 < t.columns := by
  have hi' : (i + 1) % t.rows < t.rows := Nat.mod_lt _ (by omega)
  have hj' : (j + 1) % t.columns < t.columns := Nat.mod_lt _ (by omega)
  have corner {a b c : Place} (h : p ∈ t.triangle a b c) : p = a ∨ p = b ∨ p = c := by
    unfold triangle at h
    split at h <;> simp at h <;> tauto
  rcases List.mem_append.1 hp with h | h
  -- both halves of a cell have their corners among the four of the cell
  all_goals
    split at h
    · simp at h
    · rcases corner h with rfl | rfl | rfl <;> constructor <;> assumption

theorem lt_of_mem_corners {p : Place} (hp : p ∈ t.corners) : p.1 < t.rows ∧ p.2 < t.columns := by
  simp only [corners, List.mem_flatMap, List.mem_range] at hp
  obtain ⟨i, hi, j, hj, h⟩ := hp
  exact lt_of_mem_cellCorners hi (Nat.lt_of_lt_of_le hj t.cells_le) h

theorem place_lt {i j : Nat} (hi : i < t.rows) (hj : j < t.columns) :
    i * t.columns + j < t.rows * t.columns := by
  calc i * t.columns + j < i * t.columns + t.columns := by omega
    _ = (i + 1) * t.columns := by rw [Nat.succ_mul]
    _ ≤ t.rows * t.columns := Nat.mul_le_mul_right _ hi

theorem index_lt {p : Place} (hp : p ∈ t.corners) :
    p.1 * t.columns + p.2 < t.rows * t.columns :=
  place_lt (lt_of_mem_corners hp).1 (lt_of_mem_corners hp).2

/-- **A mesh has one point for every corner.** -/
theorem size_mesh {α : Type} {points : Array (Vec3 α)}
    (h : points.size = t.rows * t.columns) : (t.mesh points).size = t.corners.length := by
  rw [mesh, List.size_toArray, List.filterMap_length_eq_length]
  intro p hp
  rw [Array.getElem?_eq_getElem (h ▸ index_lt hp)]
  rfl

variable (t) in
/-- The points of a grid, given row by row, by their places. -/
def IsGrid {α : Type} (points : Array (Vec3 α)) (place : Place → Vec3 α) : Prop :=
  ∀ i < t.rows, ∀ j < t.columns, points[i * t.columns + j]? = some (place (i, j))

/-- **A mesh has the point of every corner.** -/
theorem IsGrid.toList_mesh {α : Type} {points : Array (Vec3 α)} {place : Place → Vec3 α}
    (h : t.IsGrid points place) : (t.mesh points).toList = t.corners.map place := by
  rw [mesh, List.toList_toArray, ← List.filterMap_eq_map]
  refine List.filterMap_congr fun p hp => ?_
  obtain ⟨hi, hj⟩ := lt_of_mem_corners hp
  exact h p.1 hi p.2 hj

theorem three_dvd_size_mesh {α : Type} {points : Array (Vec3 α)}
    (h : points.size = t.rows * t.columns) : (t.mesh points).size % 3 = 0 := by
  rw [size_mesh h]
  exact Nat.mod_eq_zero_of_dvd t.three_dvd_length_corners

end Triangulation

namespace Mesh

variable {α : Type}

theorem size_gridPoints (rows columns : Nat) (point : Nat → Nat → Vec3 α) :
    (gridPoints rows columns point).size = rows * columns := by
  rw [gridPoints, List.size_toArray, List.length_flatMap]
  simp only [List.length_map, List.length_range, List.map_const', List.sum_replicate_nat]

theorem getElem?_gridPoints {rows columns : Nat} (point : Nat → Nat → Vec3 α) {i j : Nat}
    (hi : i < rows) (hj : j < columns) :
    (gridPoints rows columns point)[i * columns + j]? = some (point i j) := by
  have hlength (n : Nat) :
      ((List.range n).flatMap fun i => (List.range columns).map (point i)).length =
        n * columns := size_gridPoints n columns point
  simp only [gridPoints, List.getElem?_toArray]
  induction rows with
  | zero => omega
  | succ rows ih =>
    rw [List.range_succ, List.flatMap_append, List.flatMap_singleton]
    rcases Nat.lt_succ_iff_lt_or_eq.1 hi with hlt | rfl
    · have hplace : i * columns + j < rows * columns := by
        calc i * columns + j < (i + 1) * columns := by rw [Nat.succ_mul]; omega
          _ ≤ rows * columns := Nat.mul_le_mul_right _ hlt
      rw [List.getElem?_append_left (by rw [hlength]; exact hplace)]
      exact ih hlt
    · rw [List.getElem?_append_right (by rw [hlength]; omega), hlength]
      simp [hj]

theorem mesh_gridPoints (t : Triangulation) (point : Nat → Nat → Vec3 α) :
    (t.mesh (gridPoints t.rows t.columns point)).toList =
      t.corners.map fun p => point p.1 p.2 :=
  Triangulation.IsGrid.toList_mesh fun _ hi _ hj => getElem?_gridPoints point hi hj

theorem size_box [Zero α] [One α] [Add α] [Mul α] [Neg α] (corner extent : Vec3 α) :
    (box corner extent).size = 36 := by
  simp only [box, List.size_toArray, List.length_map]
  rfl

variable [Add α] [Mul α] [Div α] [NatCast α] [Circular α]

theorem size_sphere (centre : Vec3 α) (radius : α) (steps : Nat) :
    (sphere centre radius steps).size % 3 = 0 :=
  Triangulation.three_dvd_size_mesh (size_gridPoints ..)

theorem size_torus [Neg α] (centre : Vec3 α) (tube ring : α) (steps : Nat) :
    (torus centre tube ring steps).size % 3 = 0 :=
  Triangulation.three_dvd_size_mesh (size_gridPoints ..)

end Mesh

end Flipbook
