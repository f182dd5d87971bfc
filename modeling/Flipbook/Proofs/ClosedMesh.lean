import Flipbook.Proofs.MeshSize
import Flipbook.Proofs.Surface
import Mathlib.Algebra.BigOperators.Group.List.Basic
import Mathlib.Data.List.ProdSigma
import Mathlib.Tactic.Ring

/-!
# Spheres and tori are closed

The triangles of a grid are read as faces between the places that their corners are copied from
(`Triangulation.faces`).  Rows, and for a torus columns too, close to a ring: `Wheel.next` is the
step from one place of a ring to the next.  It is one to one, and on a ring of at least three places
neither one step nor two lead back, which is why the six sides of a cell and those of its neighbours
are told apart.

The first and the last column of a sphere are single points, its poles.  With their places
identified (`Mesh.atPole`) the triangles that are left out there are exactly those that would have
two equal corners, and the others close around the poles.
-/

namespace Flipbook

/-! ### Rings of places -/

namespace Wheel

/-- The place after `i` on a ring of `n` places. -/
def next (n i : Nat) : Nat := (i + 1) % n

variable {n i j : Nat}

theorem next_eq (hi : i < n) : next n i = if i + 1 = n then 0 else i + 1 := by
  unfold next
  split
  · rename_i h
    rw [h, Nat.mod_self]
  · exact Nat.mod_eq_of_lt (by omega)

theorem next_lt (hi : i < n) : next n i < n := Nat.mod_lt _ (by omega)

theorem next_inj (hi : i < n) (hj : j < n) (h : next n i = next n j) : i = j := by
  rw [next_eq hi, next_eq hj] at h
  split at h <;> split at h <;> omega

theorem exists_next (hi : i < n) : ∃ k < n, next n k = i := by
  rcases Nat.eq_zero_or_pos i with rfl | hpos
  · exact ⟨n - 1, by omega, by rw [next_eq (by omega), if_pos (by omega)]⟩
  · exact ⟨i - 1, by omega, by rw [next_eq (by omega), if_neg (by omega)]; omega⟩

theorem next_ne (hn : 3 ≤ n) (hi : i < n) : next n i ≠ i := by
  rw [next_eq hi]
  split <;> omega

theorem next_next_ne (hn : 3 ≤ n) (hi : i < n) : next n (next n i) ≠ i := by
  rw [next_eq (next_lt hi), next_eq hi]
  split <;> split <;> omega

end Wheel

/-! ### The faces of a grid -/

namespace Triangulation

variable (t : Triangulation)

/-- The triangles by the places that their corners are copied from. -/
def faces : List (Face Place) := Face.ofCorners t.corners

/-- All cells, row by row. -/
def cellList : List Place := List.range t.rows ×ˢ List.range t.cells

/-- The triangles of a cell. -/
def cellFaces (c : Place) : List (Face Place) := Face.ofCorners (t.cellCorners c.1 c.2)

theorem mem_cellList {i j : Nat} : (i, j) ∈ t.cellList ↔ i < t.rows ∧ j < t.cells := by
  simp [cellList]

theorem nodup_cellList : t.cellList.Nodup := List.Nodup.product List.nodup_range List.nodup_range

theorem faces_eq : t.faces = t.cellList.flatMap t.cellFaces := by
  have hrow (i : Nat) : 3 ∣ ((List.range t.cells).flatMap (t.cellCorners i)).length :=
    three_dvd_length_flatMap _ _ fun _ => t.three_dvd_length_cellCorners ..
  have hcells : t.cellList =
      (List.range t.rows).flatMap fun i => (List.range t.cells).map (Prod.mk i) := rfl
  rw [faces, corners, Face.ofCorners_flatMap fun i _ => hrow i, hcells, List.flatMap_assoc]
  refine List.flatMap_congr fun i _ => ?_
  rw [Face.ofCorners_flatMap fun _ _ => t.three_dvd_length_cellCorners .., List.flatMap_map]
  rfl

/-- A triangle of places, turned over if the triangulation says so. -/
def face (a b c : Place) : Face Place := if t.flip then ⟨a, c, b⟩ else ⟨a, b, c⟩

/-- The triangle of a cell that has a side along the next column. -/
def nextFace (i j : Nat) : Face Place :=
  t.face (i, j) (i, Wheel.next t.columns j) (Wheel.next t.rows i, Wheel.next t.columns j)

/-- The triangle of a cell that has a side along its own column. -/
def ownFace (i j : Nat) : Face Place :=
  t.face (i, j) (Wheel.next t.rows i, Wheel.next t.columns j) (Wheel.next t.rows i, j)

theorem cellFaces_eq (i j : Nat) : t.cellFaces (i, j) =
    (if t.skipPoles && j == t.cells - 1 then [] else [t.nextFace i j]) ++
      (if t.skipPoles && j == 0 then [] else [t.ownFace i j]) := by
  have hface (a b c : Place) : Face.ofCorners (t.triangle a b c) = [t.face a b c] := by
    unfold face triangle
    split <;> rfl
  rw [cellFaces, cellCorners, Face.ofCorners_append _ (t.three_dvd_length_side ..)]
  simp only [apply_ite Face.ofCorners, hface]
  rfl

/-- **Without poles every cell has two triangles**, and they come in the order of the cells. -/
theorem faces_of_poles_kept (h : t.skipPoles = false) : t.faces =
    (List.range t.rows).flatMap fun i => (List.range t.cells).flatMap fun j =>
      [t.nextFace i j, t.ownFace i j] := by
  have hcells : t.cellList =
      (List.range t.rows).flatMap fun i => (List.range t.cells).map (Prod.mk i) := rfl
  rw [faces_eq, hcells, List.flatMap_assoc]
  refine List.flatMap_congr fun i _ => ?_
  rw [List.flatMap_map]
  refine List.flatMap_congr fun j _ => ?_
  rw [cellFaces_eq, h]
  rfl

theorem length_faces_of_poles_kept (h : t.skipPoles = false) :
    t.faces.length = 2 * t.rows * t.cells := by
  rw [faces_of_poles_kept t h]
  simp only [List.length_flatMap, List.length_cons, List.length_nil, List.map_const',
    List.sum_replicate_nat, List.length_range]
  ring

end Triangulation

open Triangulation Wheel

namespace Mesh

variable {n i j : Nat}

theorem cellFaces_torus (i j : Nat) : (torusTriangulation n).cellFaces (i, j) =
    [⟨(i, j), (next n i, next n j), (i, next n j)⟩,
      ⟨(i, j), (next n i, j), (next n i, next n j)⟩] := rfl

theorem sides_torus (i j : Nat) {e : Triangulation.Place × Triangulation.Place} :
    e ∈ ((torusTriangulation n).cellFaces (i, j)).flatMap Face.sides ↔
      e = ((i, j), (next n i, next n j)) ∨ e = ((next n i, next n j), (i, next n j)) ∨
      e = ((i, next n j), (i, j)) ∨ e = ((i, j), (next n i, j)) ∨
      e = ((next n i, j), (next n i, next n j)) ∨ e = ((next n i, next n j), (i, j)) := by
  simp [cellFaces_torus, Face.sides]

theorem mem_cellList_torus {i j : Nat} :
    (i, j) ∈ (torusTriangulation n).cellList ↔ i < n ∧ j < n := mem_cellList _

theorem closed_torus (hn : 3 ≤ n) : ClosedSurface (torusTriangulation n).faces := by
  rw [faces_eq]
  refine .of_cells (nodup_cellList _) ?_ ?_ ?_ ?_
  · rintro ⟨i, j⟩ hc e he
    obtain ⟨hi, hj⟩ := mem_cellList_torus.1 hc
    have hi' := next_ne hn hi
    have hj' := next_ne hn hj
    rw [sides_torus] at he
    grind
  · rintro ⟨i, j⟩ hc
    obtain ⟨hi, hj⟩ := mem_cellList_torus.1 hc
    have hi' := next_ne hn hi
    have hj' := next_ne hn hj
    simp [cellFaces_torus, Face.sides]
    grind
  · rintro ⟨i, j⟩ hc ⟨k, l⟩ hd e he he'
    obtain ⟨hi, hj⟩ := mem_cellList_torus.1 hc
    obtain ⟨hk, hl⟩ := mem_cellList_torus.1 hd
    have hi' := next_ne hn hi
    have hj' := next_ne hn hj
    have hk' := next_ne hn hk
    have hl' := next_ne hn hl
    have hi'' := next_next_ne hn hi
    have hj'' := next_next_ne hn hj
    have hik := @next_inj n i k hi hk
    have hjl := @next_inj n j l hj hl
    rw [sides_torus] at he he'
    rcases he with rfl | rfl | rfl | rfl | rfl | rfl <;> grind
  · rintro ⟨i, j⟩ hc e he
    obtain ⟨hi, hj⟩ := mem_cellList_torus.1 hc
    obtain ⟨k, hk, hki⟩ := exists_next hi
    obtain ⟨l, hl, hlj⟩ := exists_next hj
    simp only [Prod.exists, mem_cellList_torus, sides_torus]
    rw [sides_torus] at he
    -- a diagonal is shared by the two triangles of its cell, the other sides with the neighbours
    rcases he with rfl | rfl | rfl | rfl | rfl | rfl
    · exact ⟨i, j, ⟨hi, hj⟩, by simp⟩
    · exact ⟨i, next n j, ⟨hi, next_lt hj⟩, by simp⟩
    · exact ⟨k, j, ⟨hk, hj⟩, by simp [hki]⟩
    · exact ⟨i, l, ⟨hi, hl⟩, by simp [hlj]⟩
    · exact ⟨next n i, j, ⟨next_lt hi, hj⟩, by simp⟩
    · exact ⟨i, j, ⟨hi, hj⟩, by simp⟩

/-- The place that stands for a place of a sphere: all places of the first column are one point,
and all places of the last one. -/
def atPole (n : Nat) (p : Triangulation.Place) : Triangulation.Place :=
  if p.2 = 0 then (0, 0) else if p.2 = n then (0, n) else p

theorem atPole_first (hj : j < n) : atPole n (i, j) = if j = 0 then (0, 0) else (i, j) := by
  simp only [atPole, if_neg (Nat.ne_of_lt hj)]

theorem atPole_last : atPole n (i, j + 1) = if j + 1 = n then (0, n) else (i, j + 1) := rfl

theorem mem_cellList_sphere {i j : Nat} :
    (i, j) ∈ (sphereTriangulation n).cellList ↔ i < n ∧ j < n := mem_cellList _

theorem cellFaces_sphere (i : Nat) (hj : j < n) : (sphereTriangulation n).cellFaces (i, j) =
    (if j + 1 = n then [] else [⟨(i, j), (i, j + 1), (next n i, j + 1)⟩]) ++
      (if j = 0 then [] else [⟨(i, j), (next n i, j + 1), (next n i, j)⟩]) := by
  have hnext : (j + 1) % (n + 1) = j + 1 := Nat.mod_eq_of_lt (by omega)
  have hlast : j = n - 1 ↔ j + 1 = n := by omega
  simp only [cellFaces, cellCorners, sphereTriangulation, triangle, cells, hnext, Bool.true_and,
    Bool.false_eq_true, ↓reduceIte, Nat.add_sub_cancel, beq_iff_eq, hlast]
  split <;> split <;> rfl

/-- The sides of a cell of a sphere: those of the triangle towards the first column, unless the
cell lies at the last pole, and those of the other one, unless it lies at the first. -/
theorem sides_sphere (i : Nat) (hj : j < n) :
    (((sphereTriangulation n).cellFaces (i, j)).map (Face.map (atPole n))).flatMap Face.sides =
      (if j + 1 = n then [] else [(atPole n (i, j), (i, j + 1)), ((i, j + 1), (next n i, j + 1)),
        ((next n i, j + 1), atPole n (i, j))]) ++
      (if j = 0 then [] else [((i, j), atPole n (next n i, j + 1)),
        (atPole n (next n i, j + 1), (next n i, j)), ((next n i, j), (i, j))]) := by
  rw [cellFaces_sphere i hj, List.map_append, List.flatMap_append]
  congr 1
  · split
    · rfl
    · rename_i h
      -- the corners in the next column lie inside
      have hinside (i : Nat) : atPole n (i, j + 1) = (i, j + 1) := if_neg h
      simp [Face.map, Face.sides, hinside]
  · split
    · rfl
    · rename_i h
      have hinside (i : Nat) : atPole n (i, j) = (i, j) := by rw [atPole_first hj, if_neg h]
      simp [Face.map, Face.sides, hinside]

theorem mem_sides_sphere (i : Nat) (hj : j < n) {e : Triangulation.Place × Triangulation.Place} :
    e ∈ (((sphereTriangulation n).cellFaces (i, j)).map (Face.map (atPole n))).flatMap Face.sides ↔
      (j + 1 ≠ n ∧ (e = (atPole n (i, j), (i, j + 1)) ∨ e = ((i, j + 1), (next n i, j + 1)) ∨
        e = ((next n i, j + 1), atPole n (i, j)))) ∨
      (j ≠ 0 ∧ (e = ((i, j), atPole n (next n i, j + 1)) ∨
        e = (atPole n (next n i, j + 1), (next n i, j)) ∨ e = ((next n i, j), (i, j)))) := by
  rw [sides_sphere i hj, List.mem_append]
  split <;> split <;> simp_all

theorem closed_sphere (hn : 3 ≤ n) :
    ClosedSurface ((sphereTriangulation n).faces.map (Face.map (atPole n))) := by
  rw [faces_eq, List.map_flatMap]
  refine .of_cells (nodup_cellList _) ?_ ?_ ?_ ?_
  · rintro ⟨i, j⟩ hc e he
    obtain ⟨hi, hj⟩ := mem_cellList_sphere.1 hc
    have hi' := next_ne hn hi
    rw [mem_sides_sphere i hj, atPole_first hj, atPole_last] at he
    grind
  · rintro ⟨i, j⟩ hc
    obtain ⟨hi, hj⟩ := mem_cellList_sphere.1 hc
    have hi' := next_ne hn hi
    rw [sides_sphere i hj, atPole_first hj, atPole_last]
    split <;> split <;> simp <;> grind
  · rintro ⟨i, j⟩ hc ⟨k, l⟩ hd e he he'
    obtain ⟨hi, hj⟩ := mem_cellList_sphere.1 hc
    obtain ⟨hk, hl⟩ := mem_cellList_sphere.1 hd
    have hi' := next_ne hn hi
    have hk' := next_ne hn hk
    have hi'' := next_next_ne hn hi
    have hik := @next_inj n i k hi hk
    rw [mem_sides_sphere i hj, atPole_first hj, atPole_last] at he
    rw [mem_sides_sphere k hl, atPole_first hl, atPole_last] at he'
    rcases he with ⟨h, rfl | rfl | rfl⟩ | ⟨h, rfl | rfl | rfl⟩ <;> grind
  · rintro ⟨i, j⟩ hc e he
    obtain ⟨hi, hj⟩ := mem_cellList_sphere.1 hc
    obtain ⟨k, hk, hki⟩ := exists_next hi
    simp only [Prod.exists, mem_cellList_sphere]
    rw [mem_sides_sphere i hj] at he
    -- where a triangle is left out, the diagonal is a side of the neighbouring cell of the pole
    rcases he with ⟨h, rfl | rfl | rfl⟩ | ⟨h, rfl | rfl | rfl⟩
    · refine ⟨k, j, ⟨hk, hj⟩, (mem_sides_sphere k hj).2 ?_⟩
      rw [atPole_first hj, atPole_first hj, atPole_last, hki]
      grind
    · refine ⟨i, j + 1, ⟨hi, by omega⟩, (mem_sides_sphere i (by omega)).2 ?_⟩
      simp
    · by_cases h0 : j = 0
      · subst h0
        exact ⟨next n i, 0, ⟨next_lt hi, hj⟩, (mem_sides_sphere _ hj).2 (by simp [h, atPole])⟩
      · refine ⟨i, j, ⟨hi, hj⟩, (mem_sides_sphere i hj).2 ?_⟩
        rw [atPole_first hj, atPole_last]
        simp [h, h0]
    · by_cases hlast : j + 1 = n
      · refine ⟨k, j, ⟨hk, hj⟩, (mem_sides_sphere k hj).2 ?_⟩
        rw [atPole_last, atPole_last, hki]
        simp [h, hlast]
      · refine ⟨i, j, ⟨hi, hj⟩, (mem_sides_sphere i hj).2 ?_⟩
        rw [atPole_first hj, atPole_last]
        simp [h, hlast]
    · by_cases hlast : j + 1 = n
      · refine ⟨next n i, j, ⟨next_lt hi, hj⟩, (mem_sides_sphere _ hj).2 ?_⟩
        rw [atPole_last, atPole_last]
        simp [h, hlast]
      · refine ⟨next n i, j, ⟨next_lt hi, hj⟩, (mem_sides_sphere _ hj).2 ?_⟩
        rw [atPole_first hj, atPole_last]
        simp [h, hlast]
    · refine ⟨i, j - 1, ⟨hi, by omega⟩, (mem_sides_sphere i (by omega)).2 ?_⟩
      have hback : j - 1 + 1 = j := by omega
      simp [hback, Nat.ne_of_lt hj]

/-! ### The number of triangles -/

theorem length_faces_torus (n : Nat) : (torusTriangulation n).faces.length = 2 * n * n :=
  length_faces_of_poles_kept _ rfl

/-- The triangles in a row of cells: two for each but the first and the last, which have one. -/
theorem sum_row (n : Nat) :
    ((List.range n).map fun j =>
      (if j + 1 = n then 0 else 1) + (if j = 0 then 0 else 1)).sum = 2 * n - 2 := by
  cases n with
  | zero => rfl
  | succ m =>
    have hlast : ((List.range (m + 1)).map fun j => if j + 1 = m + 1 then 0 else 1).sum = m := by
      have hbefore : (List.range m).map (fun j => if j + 1 = m + 1 then 0 else 1) =
          (List.range m).map fun _ => 1 := by
        refine List.map_congr_left fun j hj => if_neg ?_
        have := List.mem_range.1 hj
        omega
      rw [List.range_succ, List.map_append, List.sum_append, hbefore]
      simp
    have hfirst : ((List.range (m + 1)).map fun j => if j = 0 then 0 else 1).sum = m := by
      rw [List.range_succ_eq_map, List.map_cons, List.sum_cons, List.map_map]
      simp [Function.comp_def]
    rw [List.sum_map_add, hlast, hfirst]
    omega

theorem length_faces_sphere (n : Nat) :
    (sphereTriangulation n).faces.length = n * (2 * n - 2) := by
  have hcell (i : Nat) {j : Nat} (hj : j < n) :
      ((sphereTriangulation n).cellFaces (i, j)).length =
        (if j + 1 = n then 0 else 1) + (if j = 0 then 0 else 1) := by
    rw [cellFaces_sphere i hj, List.length_append]
    congr 1 <;> split <;> rfl
  have hrow (i : Nat) : ((List.range n).map fun j =>
      ((sphereTriangulation n).cellFaces (i, j)).length).sum = 2 * n - 2 := by
    rw [← sum_row]
    exact congrArg List.sum (List.map_congr_left fun j hj => hcell i (List.mem_range.1 hj))
  have hcells : (sphereTriangulation n).cellList =
      (List.range n).flatMap fun i => (List.range n).map (Prod.mk i) := rfl
  rw [faces_eq, hcells, List.flatMap_assoc, List.length_flatMap]
  simp only [List.flatMap_map, List.length_flatMap, hrow, List.map_const', List.sum_replicate_nat,
    List.length_range]

variable {α : Type} [Add α] [Mul α] [Div α] [Neg α] [NatCast α] [Circular α]

/-- **Spheres and tori are closed surfaces.**  The triangles of a torus, and those of a sphere with
the places of either pole taken for one, have no two equal corners; every directed edge belongs to
exactly one of them, and its reverse to exactly one other.  The corners are copied from the points
of the places that name them. -/
theorem closedSurface_of_steps (steps : Nat) (hsteps : 3 ≤ steps) (centre : Vec3 α)
    (radius tube ring : α) :
    (Triangle.ofCorners (torus centre tube ring steps).toList =
        (torusTriangulation steps).faces.map
          (Face.triangle fun p => torusPoint centre tube ring steps p.1 p.2) ∧
      ClosedSurface (torusTriangulation steps).faces ∧
      (torusTriangulation steps).faces.length = 2 * steps * steps) ∧
    Triangle.ofCorners (sphere centre radius steps).toList =
        (sphereTriangulation steps).faces.map
          (Face.triangle fun p => spherePoint centre radius steps p.1 p.2) ∧
      ClosedSurface ((sphereTriangulation steps).faces.map (Face.map (atPole steps))) ∧
      (sphereTriangulation steps).faces.length = steps * (2 * steps - 2) := by
  refine ⟨⟨?_, closed_torus hsteps, length_faces_torus steps⟩, ?_, closed_sphere hsteps,
    length_faces_sphere steps⟩
  · rw [faces, ← Face.triangles_map]
    exact congrArg _ (mesh_gridPoints (torusTriangulation steps) _)
  · rw [faces, ← Face.triangles_map]
    exact congrArg _ (mesh_gridPoints (sphereTriangulation steps) _)

/-- Three steps, the fewest that a builder takes: a torus of eighteen triangles, and a sphere of
twelve, the first of which stands on a pole. -/
theorem closedSurface_of_three_steps :
    3 ≤ 3 ∧ ClosedSurface (torusTriangulation 3).faces ∧ (torusTriangulation 3).faces.length = 18 ∧
      ClosedSurface ((sphereTriangulation 3).faces.map (Face.map (atPole 3))) ∧
      (sphereTriangulation 3).faces.length = 12 ∧
      (sphereTriangulation 3).faces.head? = some ⟨(0, 0), (0, 1), (1, 1)⟩ := by
  obtain ⟨⟨-, htorus, htorusLength⟩, -, hsphere, hsphereLength⟩ :=
    closedSurface_of_steps (α := Float) 3 (by decide) ⟨0, 0, 0⟩ 2 1 4
  exact ⟨by decide, htorus, htorusLength, hsphere, hsphereLength, rfl⟩

end Mesh

end Flipbook
