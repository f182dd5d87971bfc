import Flipbook.Proofs.ExactAngles
import Flipbook.Proofs.Orientation
import Mathlib.Tactic.Positivity

/-!
# Spheres and tori face outward

Seen from the centre of a sphere, and from within the tube of a torus, every triangle turns to the
left: its winding is positive.  The winding has a closed form, a product of sines of the steps of
the grid, which is the same in every row, the last one included (`Mesh.winding_later`,
`Mesh.winding_own` and their neighbours).  On a sphere it also has the sine of the column of two of
the corners for a factor, and this is zero for the triangles at the poles, which are left out.
-/

namespace Flipbook

namespace Triangle

variable {α : Type} [CommRing α]

/-- The corners lie on one line. -/
def Flat (t : Triangle α) : Prop := t.normal = ⟨0, 0, 0⟩

theorem windingAbout_eq_dot_normal (t : Triangle α) (q : Vec3 α) :
    t.windingAbout q = (t.a - q).dot t.normal := by
  simp only [windingAbout, normal, Vec3.det, Vec3.dot, Vec3.cross, Vec3.sub_def]
  ring

theorem not_flat_of_windingAbout {t : Triangle α} {q : Vec3 α} (h : t.windingAbout q ≠ 0) :
    ¬ t.Flat := by
  intro hflat
  refine h ?_
  rw [windingAbout_eq_dot_normal, hflat]
  simp [Vec3.dot]

end Triangle

open Circular Triangulation Wheel

namespace Mesh

/-! ### Triangles by rows and columns -/

section Triangles

variable {α : Type}

theorem triangles_mesh (t : Triangulation) (point : Nat → Nat → Vec3 α) :
    Triangle.ofCorners (t.mesh (gridPoints t.rows t.columns point)).toList =
      t.cellList.flatMap fun c => (t.cellFaces c).map (Face.triangle fun p => point p.1 p.2) := by
  rw [mesh_gridPoints, Face.triangles_map]
  change t.faces.map _ = _
  rw [faces_eq, List.map_flatMap]

theorem exists_place_of_mem_mesh {t : Triangulation} {point : Nat → Nat → Vec3 α} {p : Vec3 α}
    (hp : p ∈ t.mesh (gridPoints t.rows t.columns point)) :
    ∃ i < t.rows, ∃ j < t.columns, p = point i j := by
  rw [← Array.mem_toList_iff, mesh_gridPoints] at hp
  obtain ⟨⟨i, j⟩, hplace, rfl⟩ := List.mem_map.1 hp
  obtain ⟨hi, hj⟩ := lt_of_mem_corners hplace
  exact ⟨i, hi, j, hj, rfl⟩

variable (point : Nat → Nat → Vec3 α) (n i j : Nat)

/-- The triangle of a cell of a sphere with two corners in the next column. -/
def laterTriangle : Triangle α := ⟨point i j, point i (j + 1), point (next n i) (j + 1)⟩

/-- The triangle of a cell of a sphere with two corners in the column of the cell. -/
def earlierTriangle : Triangle α := ⟨point i j, point (next n i) (j + 1), point (next n i) j⟩

/-- The triangles of a cell of a sphere, without one whose two corners in one column are a pole. -/
def sphereCell : List (Triangle α) :=
  (if j + 1 = n then [] else [laterTriangle point n i j]) ++
    if j = 0 then [] else [earlierTriangle point n i j]

/-- The triangle of a cell of a torus with two corners in the row of the cell. -/
def ownTriangle : Triangle α :=
  ⟨point i j, point (next n i) (next n j), point i (next n j)⟩

/-- The triangle of a cell of a torus with two corners in the next row. -/
def nextTriangle : Triangle α :=
  ⟨point i j, point (next n i) j, point (next n i) (next n j)⟩

/-- The triangles of a cell of a torus. -/
def torusCell : List (Triangle α) := [ownTriangle point n i j, nextTriangle point n i j]

end Triangles

variable {α : Type} [Field α] [LinearOrder α] [IsStrictOrderedRing α] [Circular α]
variable (lawful : Lawful α) {n i j : Nat}

/-! ### Spheres -/

section Sphere

variable (centre : Vec3 α) (radius : α)

omit [LinearOrder α] [IsStrictOrderedRing α] in
theorem triangles_sphere (n : Nat) : Triangle.ofCorners (sphere centre radius n).toList =
    (List.range n ×ˢ List.range n).flatMap fun (i, j) =>
      sphereCell (spherePoint centre radius n) n i j := by
  refine (triangles_mesh (sphereTriangulation n) _).trans ?_
  refine List.flatMap_congr fun ⟨i, j⟩ hc => ?_
  rw [cellFaces_sphere i (mem_cellList_sphere.1 hc).2, List.map_append]
  dsimp only [sphereCell]
  congr 1 <;> split <;> rfl

include lawful

theorem distance_sphere (n i j : Nat) :
    let v := spherePoint centre radius n i j - centre
    v.dot v = radius * radius := by
  have hrow := lawful.sin_sq_add_cos_sq (turnAngle n i)
  have hcolumn := lawful.sin_sq_add_cos_sq (halfTurnAngle n j)
  simp only [spherePoint, Vec3.sub_def, Vec3.dot]
  linear_combination
    radius * radius * (hcolumn + sin (halfTurnAngle n j) * sin (halfTurnAngle n j) * hrow)

/-- **The winding of a triangle with two corners in the next column.** -/
theorem winding_later (hi : i < n) (j : Nat) :
    (laterTriangle (spherePoint centre radius n) n i j).windingAbout centre =
      radius ^ 3 * sin (pi / n : α) * sin (2 * pi / n : α) * sin (pi * (j + 1) / n : α) := by
  have hcolumn : (pi * (j + 1) / n : α) = halfTurnAngle n (j + 1) := by
    rw [halfTurnAngle, Nat.cast_add_one]
  rw [hcolumn, ← lawful.gap_turn hi, ← lawful.gap_halfTurn n j]
  simp only [Triangle.windingAbout, laterTriangle, spherePoint, Vec3.sub_def, Vec3.det, Vec3.dot,
    Vec3.cross]
  ring

/-- **The winding of a triangle with two corners in the column of its cell.** -/
theorem winding_earlier (hi : i < n) (j : Nat) :
    (earlierTriangle (spherePoint centre radius n) n i j).windingAbout centre =
      radius ^ 3 * sin (pi / n : α) * sin (2 * pi / n : α) * sin (pi * j / n : α) := by
  have hcolumn : (pi * j / n : α) = halfTurnAngle n j := rfl
  rw [hcolumn, ← lawful.gap_turn hi, ← lawful.gap_halfTurn n j]
  simp only [Triangle.windingAbout, earlierTriangle, spherePoint, Vec3.sub_def, Vec3.det, Vec3.dot,
    Vec3.cross]
  ring

/-- A triangle that is not left out is wound outward. -/
theorem winding_sphereCell_pos (hradius : 0 < radius) (hn : 3 ≤ n) (hi : i < n) (hj : j < n)
    {t : Triangle α} (ht : t ∈ sphereCell (spherePoint centre radius n) n i j) :
    0 < t.windingAbout centre := by
  have hstep : 0 < sin (pi / n : α) := by
    simpa using lawful.sin_halfTurn_pos (j := 1) (n := n) (by decide) (by omega)
  have hrow := lawful.sin_step_pos hn
  rcases List.mem_append.1 ht with ht | ht
  · split at ht
    · cases ht
    · obtain rfl := List.mem_singleton.1 ht
      have hcolumn := lawful.sin_halfTurn_pos (j := j + 1) (n := n) (by omega) (by omega)
      rw [Nat.cast_add_one] at hcolumn
      rw [winding_later lawful centre radius hi j]
      positivity
  · split at ht
    · cases ht
    · obtain rfl := List.mem_singleton.1 ht
      have hcolumn := lawful.sin_halfTurn_pos (j := j) (n := n) (by omega) hj
      rw [winding_earlier lawful centre radius hi j]
      positivity

/-- **Spheres face outward.**  Every vertex has the distance of the radius from the centre.  The
triangles are those of the cells, row by row, and their windings about the centre are known; each
of them turns to the left when it is seen from the centre, and none is flat. -/
theorem sphere_faces_outward {radius : α} (hradius : 0 < radius) {steps : Nat}
    (hsteps : 3 ≤ steps) :
    let point := spherePoint centre radius steps
    let triangles := Triangle.ofCorners (sphere centre radius steps).toList
    (∀ p ∈ sphere centre radius steps, (p - centre).dot (p - centre) = radius * radius) ∧
    (triangles = (List.range steps ×ˢ List.range steps).flatMap fun (i, j) =>
      sphereCell point steps i j) ∧
    (∀ i < steps, ∀ j < steps,
      (laterTriangle point steps i j).windingAbout centre = radius ^ 3 * sin (pi / steps : α) *
        sin (2 * pi / steps : α) * sin (pi * (j + 1) / steps : α) ∧
      (earlierTriangle point steps i j).windingAbout centre = radius ^ 3 * sin (pi / steps : α) *
        sin (2 * pi / steps : α) * sin (pi * j / steps : α)) ∧
    ∀ t ∈ triangles, ¬ t.Flat ∧ 0 < t.windingAbout centre := by
  intro point triangles
  have htriangles : triangles = _ := triangles_sphere centre radius steps
  refine ⟨fun p hp => ?_, htriangles, fun i hi j _ => ?_, fun t ht => ?_⟩
  · obtain ⟨i, -, j, -, rfl⟩ := exists_place_of_mem_mesh (t := sphereTriangulation steps) hp
    exact distance_sphere lawful centre radius steps i j
  · exact ⟨winding_later lawful centre radius hi j, winding_earlier lawful centre radius hi j⟩
  · rw [htriangles, List.mem_flatMap] at ht
    obtain ⟨⟨i, j⟩, hc, ht⟩ := ht
    obtain ⟨hi, hj⟩ : i < steps ∧ j < steps := by simpa using hc
    have hpos := winding_sphereCell_pos lawful centre radius hradius hsteps hi hj ht
    exact ⟨Triangle.not_flat_of_windingAbout hpos.ne', hpos⟩

omit lawful in
/-- A real sphere of three steps: a triangle that stands on a pole and closes the last row. -/
theorem sphere_faces_outward_last_row :
    letI := Circular.real
    let centre : Vec3 ℝ := ⟨1, 0, -1⟩
    let t := laterTriangle (spherePoint centre 2 3) 3 2 0
    Lawful ℝ ∧ (0 : ℝ) < 2 ∧ 3 ≤ 3 ∧ t.c = spherePoint centre 2 3 0 1 ∧
      t ∈ Triangle.ofCorners (sphere centre 2 3).toList ∧
      t.windingAbout centre = 3 * √3 ∧ 0 < t.windingAbout centre := by
  let _ := Circular.real
  intro centre t
  obtain ⟨-, htriangles, hwinding, hpos⟩ :=
    sphere_faces_outward lawful_real centre (show (0 : ℝ) < 2 by norm_num) (le_refl 3)
  have ht : t ∈ Triangle.ofCorners (sphere centre 2 3).toList := by
    rw [htriangles, List.mem_flatMap]
    exact ⟨(2, 0), by simp, List.mem_append_left _ (by simp [t])⟩
  have hthird : sin (pi / 3 : ℝ) = √3 / 2 := Real.sin_pi_div_three
  have htwoThirds : sin (2 * pi / 3 : ℝ) = √3 / 2 := by
    have harc : 2 * Real.pi / 3 = Real.pi - Real.pi / 3 := by ring
    exact (congrArg Real.sin harc).trans ((Real.sin_pi_sub _).trans hthird)
  have hvalue : t.windingAbout centre = 3 * √3 := by
    have hclosed := (hwinding 2 (by decide) 0 (by decide)).1
    simp only [Nat.cast_ofNat, Nat.cast_zero, zero_add, mul_one, hthird, htwoThirds] at hclosed
    have hroot : √3 ^ 3 = 3 * √3 := by
      rw [pow_succ, Real.sq_sqrt (by norm_num)]
    rw [hclosed]
    linear_combination hroot
  exact ⟨lawful_real, by norm_num, le_rfl, rfl, ht, hvalue, (hpos t ht).2⟩

end Sphere

/-! ### Tori -/

section Torus

variable (centre : Vec3 α) (tube ring : α)

/-- The distance of a point of a torus from its axis. -/
def reach (tube ring : α) (n j : Nat) : α := ring + tube * cos (turnAngle n j)

/-- The centre of the tube in row `i` of a torus. -/
def tubeCentre (centre : Vec3 α) (ring : α) (n i : Nat) : Vec3 α :=
  ⟨centre.x + ring * cos (turnAngle n i), centre.y, centre.z - ring * sin (turnAngle n i)⟩

omit [LinearOrder α] [IsStrictOrderedRing α] in
theorem triangles_torus (n : Nat) : Triangle.ofCorners (torus centre tube ring n).toList =
    (List.range n ×ˢ List.range n).flatMap fun (i, j) =>
      torusCell (torusPoint centre tube ring n) n i j :=
  triangles_mesh (torusTriangulation n) _

include lawful

theorem distances_torus (n i j : Nat) :
    let v := torusPoint centre tube ring n i j - centre
    v.x ^ 2 + v.z ^ 2 = reach tube ring n j ^ 2 ∧
      (reach tube ring n j - ring) ^ 2 + v.y ^ 2 = tube ^ 2 := by
  have hrow := lawful.sin_sq_add_cos_sq (turnAngle n i)
  have hcolumn := lawful.sin_sq_add_cos_sq (turnAngle n j)
  simp only [torusPoint, reach, Vec3.sub_def]
  constructor
  · linear_combination (ring + tube * cos (turnAngle n j)) ^ 2 * hrow
  · linear_combination tube ^ 2 * hcolumn

theorem reach_pos {tube ring : α} (htube : 0 < tube) (hring : tube < ring) (n j : Nat) :
    0 < reach tube ring n j := by
  have hcos := mul_le_mul_of_nonneg_left (lawful.neg_one_le_cos (turnAngle n j)) htube.le
  unfold reach
  linarith

/-- **The winding about the tube of a triangle with two corners in the row of its cell.** -/
theorem winding_own (hi : i < n) (hj : j < n) :
    (ownTriangle (torusPoint centre tube ring n) n i j).windingAbout (tubeCentre centre ring n i) =
      tube ^ 2 * sin (2 * pi / n : α) ^ 2 * reach tube ring n (next n j) := by
  have hgaps : sin (2 * pi / n : α) ^ 2 = sin (2 * pi / n : α) * sin (2 * pi / n : α) := sq _
  rw [hgaps]
  nth_rewrite 1 [← lawful.gap_turn hi]
  rw [← lawful.gap_turn hj]
  simp only [Triangle.windingAbout, ownTriangle, torusPoint, tubeCentre, reach, Vec3.sub_def,
    Vec3.det, Vec3.dot, Vec3.cross]
  ring

/-- **The winding about the tube of a triangle with two corners in the next row.** -/
theorem winding_next (hi : i < n) (hj : j < n) :
    (nextTriangle (torusPoint centre tube ring n) n i j).windingAbout
        (tubeCentre centre ring n (next n i)) =
      tube ^ 2 * sin (2 * pi / n : α) ^ 2 * reach tube ring n j := by
  have hgaps : sin (2 * pi / n : α) ^ 2 = sin (2 * pi / n : α) * sin (2 * pi / n : α) := sq _
  rw [hgaps]
  nth_rewrite 1 [← lawful.gap_turn hi]
  rw [← lawful.gap_turn hj]
  simp only [Triangle.windingAbout, nextTriangle, torusPoint, tubeCentre, reach, Vec3.sub_def,
    Vec3.det, Vec3.dot, Vec3.cross]
  ring

/-- **Tori face outward.**  Every vertex has its reach, which is positive, for its distance from
the axis, and lies on the circle of the tube there.  The triangles are those of the cells, row by
row; each has two corners in one row, and seen from the centre of the tube in that row it turns to
the left, with a winding that is known from the reach of its single corner in the neighbouring
row. -/
theorem torus_faces_outward {tube ring : α} (htube : 0 < tube) (hring : tube < ring) {steps : Nat}
    (hsteps : 3 ≤ steps) :
    let point := torusPoint centre tube ring steps
    let winding (j : Nat) : α := tube ^ 2 * sin (2 * pi / steps : α) ^ 2 * reach tube ring steps j
    (∀ p ∈ torus centre tube ring steps, ∃ i < steps, ∃ j < steps, p = point i j ∧
      let q := reach tube ring steps j
      0 < q ∧ (p.x - centre.x) ^ 2 + (p.z - centre.z) ^ 2 = q ^ 2 ∧
        (q - ring) ^ 2 + (p.y - centre.y) ^ 2 = tube ^ 2) ∧
    (Triangle.ofCorners (torus centre tube ring steps).toList =
      (List.range steps ×ˢ List.range steps).flatMap fun (i, j) => torusCell point steps i j) ∧
    (∀ i < steps, ∀ j < steps,
      (ownTriangle point steps i j).windingAbout (tubeCentre centre ring steps i) =
        winding (next steps j) ∧
      (nextTriangle point steps i j).windingAbout (tubeCentre centre ring steps (next steps i)) =
        winding j) ∧
    ∀ j, 0 < winding j := by
  intro point winding
  refine ⟨fun p hp => ?_, triangles_torus centre tube ring steps, fun i hi j hj => ?_, fun j => ?_⟩
  · obtain ⟨i, hi, j, hj, rfl⟩ := exists_place_of_mem_mesh (t := torusTriangulation steps) hp
    obtain ⟨hreach, hcircle⟩ := distances_torus lawful centre tube ring steps i j
    exact ⟨i, hi, j, hj, rfl, reach_pos lawful htube hring steps j, hreach, hcircle⟩
  · exact ⟨winding_own lawful centre tube ring hi hj, winding_next lawful centre tube ring hi hj⟩
  · have := lawful.sin_step_pos hsteps
    have := reach_pos lawful htube hring steps j
    positivity

omit lawful in
/-- A real torus of four steps: the cell where both seams meet. -/
theorem torus_faces_outward_both_seams :
    letI := Circular.real
    let centre : Vec3 ℝ := ⟨1, 0, -1⟩
    let t := ownTriangle (torusPoint centre 1 2 4) 4 3 3
    Lawful ℝ ∧ (0 : ℝ) < 1 ∧ (1 : ℝ) < 2 ∧ 3 ≤ 4 ∧ t.b = torusPoint centre 1 2 4 0 0 ∧
      t ∈ Triangle.ofCorners (torus centre 1 2 4).toList ∧
      t.windingAbout (tubeCentre centre 2 4 3) = 3 := by
  let _ := Circular.real
  intro centre t
  obtain ⟨-, htriangles, hwinding, -⟩ := torus_faces_outward lawful_real centre
    (show (0 : ℝ) < 1 by norm_num) (show (1 : ℝ) < 2 by norm_num) (show 3 ≤ 4 by decide)
  have ht : t ∈ Triangle.ofCorners (torus centre 1 2 4).toList := by
    rw [htriangles, List.mem_flatMap]
    exact ⟨(3, 3), by simp, List.mem_cons_self⟩
  have hstep : sin (2 * pi / 4 : ℝ) = 1 := by
    have harc : 2 * Real.pi / 4 = Real.pi / 2 := by ring
    exact (congrArg Real.sin harc).trans Real.sin_pi_div_two
  have hreach : reach (1 : ℝ) 2 4 (next 4 3) = 3 := by
    have hzero : cos (turnAngle 4 (next 4 3) : ℝ) = 1 := by
      rw [show next 4 3 = 0 from rfl, turnAngle_zero]
      exact Real.cos_zero
    rw [reach, hzero]
    norm_num
  refine ⟨lawful_real, by norm_num, by norm_num, by decide, rfl, ht, ?_⟩
  have hclosed : t.windingAbout (tubeCentre centre 2 4 3) =
      1 ^ 2 * sin (2 * pi / (4 : ℕ) : ℝ) ^ 2 * reach 1 2 4 (next 4 3) :=
    (hwinding 3 (by decide) 3 (by decide)).1
  rw [hreach, Nat.cast_ofNat, hstep] at hclosed
  rw [hclosed]
  norm_num

end Torus

end Mesh

end Flipbook
