import Flipbook.Proofs.MeshSize
import Flipbook.Proofs.Orientation
import Flipbook.Proofs.Surface
import Mathlib.Algebra.Order.Field.Basic
import Mathlib.Tactic.Positivity

/-!
# Boxes face outward and are closed

A box is the unit cube moved and stretched (`Mesh.boxMap`).  The cube has twelve triangles between
its eight corners, each with the winding one half about its centre, and its sides come in pairs;
both are facts about the table of its faces.  The map of a box multiplies windings by the product of
its extents, and it keeps corners apart unless an extent is zero, so all of this carries over to the
box.
-/

namespace Flipbook

/-! ### Surfaces with renamed corners -/

section Renamed

variable {P Q : Type} {fs : List (Face P)} {g : P → Q}

theorem Face.ofCorners_map (g : P → Q) :
    ∀ ps : List P, Face.ofCorners (ps.map g) = (Face.ofCorners ps).map (Face.map g)
  | [] | [_] | [_, _] => rfl
  | a :: b :: c :: rest => by simp only [List.map_cons, ofCorners, ofCorners_map g rest, map]

theorem hasSide_map_iff {n : Nat} {e : Q × Q} :
    HasSide (fs.map (Face.map g)) n e ↔ ∃ d, HasSide fs n d ∧ d.map g g = e := by
  have hsides (f : Face P) : (f.map g).sides = f.sides.map (Prod.map g g) := rfl
  simp only [HasSide, List.getElem?_map, Option.map_eq_some_iff]
  constructor
  · rintro ⟨_, ⟨f, hf, rfl⟩, he⟩
    rw [hsides, List.mem_map] at he
    obtain ⟨d, hd, rfl⟩ := he
    exact ⟨d, ⟨f, hf, hd⟩, rfl⟩
  · rintro ⟨d, ⟨f, hf, hd⟩, rfl⟩
    exact ⟨f.map g, ⟨f, hf, rfl⟩, hsides f ▸ List.mem_map_of_mem hd⟩

/-- **A closed surface stays closed when its corners are renamed one to one.** -/
theorem ClosedSurface.map (h : ClosedSurface fs) (hg : Function.Injective g) :
    ClosedSurface (fs.map (Face.map g)) := by
  have hside (n : Nat) (d : P × P) :
      HasSide (fs.map (Face.map g)) n (d.map g g) ↔ HasSide fs n d := by
    rw [hasSide_map_iff]
    constructor
    · rintro ⟨d', hd', heq⟩
      rwa [← hg.prodMap hg heq]
    · exact fun hd => ⟨d, hd, rfl⟩
  refine ⟨fun f hf => ?_, fun m e hm n => ?_, fun m e hm => ?_⟩
  · obtain ⟨f', hf', rfl⟩ := List.mem_map.1 hf
    obtain ⟨hab, hbc, hca⟩ := h.proper f' hf'
    exact ⟨hg.ne hab, hg.ne hbc, hg.ne hca⟩
  · obtain ⟨d, hd, rfl⟩ := hasSide_map_iff.1 hm
    rw [hside]
    exact h.once m d hd n
  · obtain ⟨d, hd, rfl⟩ := hasSide_map_iff.1 hm
    obtain ⟨n, hne, hswap⟩ := h.paired m d hd
    refine ⟨n, hne, fun l => ?_⟩
    rw [← hswap l]
    exact hside l d.swap

end Renamed

namespace Mesh

/-! ### The table of faces -/

/-- The twelve triangles of a box by the names of their corners. -/
def boxTriangles : List (Face BoxCorner) := Face.ofCorners boxCorners

theorem boxTriangles_eq :
    boxTriangles = boxFaces.flatMap fun (a, b, c, d) => [⟨a, b, c⟩, ⟨a, c, d⟩] := rfl

theorem closed_boxTriangles : ClosedSurface boxTriangles :=
  .of_sides (by decide) (by decide) (by decide)

/-! ### The map of a box -/

variable {α : Type} [Field α] (corner extent : Vec3 α)

/-- The map that takes the unit cube to a box: it stretches to the right, downwards and backwards,
and moves to the corner. -/
def boxMap (v : Vec3 α) : Vec3 α :=
  ⟨corner.x + v.x * extent.x, corner.y - v.y * extent.y, corner.z - v.z * extent.z⟩

/-- The centre of a box. -/
def boxCentre : Vec3 α := boxMap corner extent ⟨1 / 2, 1 / 2, 1 / 2⟩

/-- The point of a corner of a box. -/
def boxPoint (c : BoxCorner) : Vec3 α := boxMap corner extent c.unit

theorem toList_box : (box corner extent).toList = boxCorners.map (boxPoint corner extent) := by
  refine List.map_congr_left fun c _ => ?_
  simp [boxPoint, boxMap, boxDirection, Vec3.add_def, Vec3.zipWith, sub_eq_add_neg]

theorem triangles_box : Triangle.ofCorners (box corner extent).toList =
    boxTriangles.map (Face.triangle (boxPoint corner extent)) := by
  rw [toList_box, Face.triangles_map, boxTriangles]

theorem faces_box : Face.ofCorners (box corner extent).toList =
    boxTriangles.map (Face.map (boxPoint corner extent)) := by
  rw [toList_box, Face.ofCorners_map, boxTriangles]

theorem magnifies_boxMap :
    Vec3.Magnifies (boxMap corner extent) (extent.x * extent.y * extent.z) := by
  have hstretch := Vec3.magnifies_scaling (⟨extent.x, -extent.y, -extent.z⟩ : Vec3 α)
  have hmap := (Vec3.magnifies_shift corner).comp hstretch
  convert hmap using 1
  · funext v
    simp only [boxMap, Vec3.zipWith, Vec3.add_def]
    congr 1 <;> ring
  · ring

theorem coordinates_of_mem_box {p : Vec3 α} (hp : p ∈ box corner extent) :
    (p.x = corner.x ∨ p.x = corner.x + extent.x) ∧
      (p.y = corner.y ∨ p.y = corner.y - extent.y) ∧
      (p.z = corner.z ∨ p.z = corner.z - extent.z) := by
  rw [← Array.mem_toList_iff, toList_box] at hp
  obtain ⟨⟨right, bottom, back⟩, -, rfl⟩ := List.mem_map.1 hp
  simp only [boxPoint, boxMap, BoxCorner.unit, sideFactor]
  cases right <;> cases bottom <;> cases back <;> simp

/-- With an extent that is not zero the near side and the far side are apart. -/
theorem eq_of_sideFactor_mul {e : α} (he : e ≠ 0) {far far' : Bool}
    (h : sideFactor far * e = sideFactor far' * e) : far = far' := by
  have hfactor : (sideFactor far : α) = sideFactor far' := mul_right_cancel₀ he h
  cases far <;> cases far' <;> simp_all [sideFactor]

theorem boxPoint_injective (hx : extent.x ≠ 0) (hy : extent.y ≠ 0) (hz : extent.z ≠ 0) :
    Function.Injective (boxPoint corner extent) := by
  rintro ⟨right, bottom, back⟩ ⟨right', bottom', back'⟩ h
  simp only [boxPoint, boxMap, BoxCorner.unit, Vec3.mk.injEq, add_right_inj, sub_right_inj] at h
  obtain ⟨hright, hbottom, hback⟩ := h
  rw [eq_of_sideFactor_mul hx hright, eq_of_sideFactor_mul hy hbottom,
    eq_of_sideFactor_mul hz hback]

variable [LinearOrder α] [IsStrictOrderedRing α]

/-- Every triangle of the unit cube has the winding one half about its centre. -/
theorem winding_unit {f : Face BoxCorner} (hf : f ∈ boxTriangles) :
    (f.triangle BoxCorner.unit : Triangle α).windingAbout ⟨1 / 2, 1 / 2, 1 / 2⟩ = 1 / 2 := by
  revert f
  simp only [boxTriangles_eq, boxFaces, boxCorner, List.flatMap_cons, List.flatMap_nil,
    List.cons_append, List.nil_append, List.forall_mem_cons]
  norm_num [Face.triangle, Triangle.windingAbout, BoxCorner.unit, sideFactor, Vec3.sub_def,
    Vec3.det, Vec3.dot, Vec3.cross]

/-- **Every triangle of a box has the same winding about its centre.** -/
theorem winding_box {t : Triangle α} (ht : t ∈ Triangle.ofCorners (box corner extent).toList) :
    t.windingAbout (boxCentre corner extent) = extent.x * extent.y * extent.z / 2 := by
  rw [triangles_box] at ht
  obtain ⟨f, hf, rfl⟩ := List.mem_map.1 ht
  have himage : f.triangle (boxPoint corner extent) =
      (f.triangle BoxCorner.unit).map (boxMap corner extent) := rfl
  rw [himage, boxCentre, magnifies_boxMap, winding_unit hf]
  ring

/-- **The signed volumes over the triangles of a box add up to its volume**, whatever point they
are measured from. -/
theorem sum_volumes_box (q : Vec3 α) :
    ((Triangle.ofCorners (box corner extent).toList).map fun t => t.windingAbout q / 6).sum =
      extent.x * extent.y * extent.z := by
  rw [triangles_box]
  simp only [boxTriangles_eq, boxFaces, boxCorner, List.flatMap_cons, List.flatMap_nil,
    List.cons_append, List.nil_append, List.map_cons, List.map_nil, List.sum_cons, List.sum_nil]
  simp only [Face.triangle, boxPoint, boxMap, BoxCorner.unit, sideFactor, Triangle.windingAbout,
    Vec3.sub_def, Vec3.det, Vec3.dot, Vec3.cross, bne_self_eq_false, one_ne_zero, ne_eq,
    not_false_eq_true, bne_iff_ne, Bool.false_eq_true, ↓reduceIte, zero_mul, one_mul]
  ring

/-- **Boxes face outward and are closed.**  The twelve triangles stand on the eight corners and all
have the same winding about the centre, so with positive extents all of them turn to the left when
they are seen from there; the signed volumes over them add up to the volume of the box, whatever
point they are measured from; and unless an extent is zero, every directed edge belongs to exactly
one triangle, and its reverse to exactly one other. -/
theorem box_faces_outward :
    let points := box corner extent
    let triangles := Triangle.ofCorners points.toList
    let centre : Vec3 α :=
      ⟨corner.x + extent.x / 2, corner.y - extent.y / 2, corner.z - extent.z / 2⟩
    let volume := extent.x * extent.y * extent.z
    (∀ p ∈ points, (p.x = corner.x ∨ p.x = corner.x + extent.x) ∧
      (p.y = corner.y ∨ p.y = corner.y - extent.y) ∧
      (p.z = corner.z ∨ p.z = corner.z - extent.z)) ∧
    triangles.length = 12 ∧
    (∀ t ∈ triangles, t.windingAbout centre = volume / 2) ∧
    (0 < extent.x → 0 < extent.y → 0 < extent.z →
      ∀ t ∈ triangles, 0 < t.windingAbout centre) ∧
    (∀ q, (triangles.map fun t => t.windingAbout q / 6).sum = volume) ∧
    (extent.x ≠ 0 → extent.y ≠ 0 → extent.z ≠ 0 →
      ClosedSurface (Face.ofCorners points.toList)) := by
  intro points triangles centre volume
  have hcentre : centre = boxCentre corner extent := by
    simp only [centre, boxCentre, boxMap, div_eq_inv_mul, mul_one]
  have hwinding (t : Triangle α) (ht : t ∈ triangles) : t.windingAbout centre = volume / 2 :=
    hcentre ▸ winding_box corner extent ht
  refine ⟨fun p => coordinates_of_mem_box corner extent, ?_, hwinding, fun hx hy hz t ht => ?_,
    sum_volumes_box corner extent, fun hx hy hz => ?_⟩
  · rw [show triangles = _ from triangles_box corner extent, List.length_map]
    rfl
  · rw [hwinding t ht]
    positivity
  · rw [faces_box]
    exact closed_boxTriangles.map (boxPoint_injective corner extent hx hy hz)

/-- A box whose centre lies between its corners, and one that is mirrored by a negative extent. -/
theorem box_faces_outward_rational :
    let triangles := Triangle.ofCorners (box (⟨1, 2, 3⟩ : Vec3 ℚ) ⟨1 / 2, 3, 4⟩).toList
    let centre : Vec3 ℚ := ⟨5 / 4, 1 / 2, 1⟩
    (0 : ℚ) < 1 / 2 ∧ (0 : ℚ) < 3 ∧ (0 : ℚ) < 4 ∧
      (∀ t ∈ triangles, t.windingAbout centre = 3 ∧ 0 < t.windingAbout centre) ∧
      (triangles.map fun t => t.windingAbout ⟨0, 0, 0⟩ / 6).sum = 6 ∧
      (-2 : ℚ) ≠ 0 ∧ (3 : ℚ) ≠ 0 ∧ (4 : ℚ) ≠ 0 ∧
      ClosedSurface (Face.ofCorners (box (⟨0, 0, 0⟩ : Vec3 ℚ) ⟨-2, 3, 4⟩).toList) := by
  intro triangles centre
  obtain ⟨-, -, hwinding, hpos, hvolume, -⟩ :=
    box_faces_outward (⟨1, 2, 3⟩ : Vec3 ℚ) ⟨1 / 2, 3, 4⟩
  obtain ⟨-, -, -, -, -, hclosed⟩ := box_faces_outward (⟨0, 0, 0⟩ : Vec3 ℚ) ⟨-2, 3, 4⟩
  have hcentre : (⟨1 + 1 / 2 / 2, 2 - 3 / 2, 3 - 4 / 2⟩ : Vec3 ℚ) = centre := by
    norm_num [centre]
  rw [hcentre] at hwinding hpos
  refine ⟨by norm_num, by norm_num, by norm_num, fun t ht => ⟨?_, ?_⟩, ?_, by norm_num,
    by norm_num, by norm_num, hclosed (by norm_num) (by norm_num) (by norm_num)⟩
  · rw [hwinding t ht]
    norm_num
  · exact hpos (by norm_num) (by norm_num) (by norm_num) t ht
  · rw [hvolume]
    norm_num

end Mesh

end Flipbook
