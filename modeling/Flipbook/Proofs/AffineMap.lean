import Flipbook.Geometry.Matrix
import Mathlib.Data.List.Forall2
import Mathlib.Tactic.Ring

/-!
# What matrices do to points

A matrix realizes a map of space (`Matrix4.Realizes`) when it takes every point with the fourth
coordinate one to its image with the fourth coordinate one, and its last row is that of the
identity.  Moves, stretches and turns are realized by their matrices, and a product of matrices
takes points through their maps, the last one first (`Matrix4.apply_foldl`).  The scalars
are those of any commutative ring, and the cosine and the sine of a turn are any two of them.
-/

namespace Flipbook

namespace Vec3

variable {α : Type}

/-- The image of a point under maps that are applied one after the other, the last one first. -/
def through (v : Vec3 α) (fs : List (Vec3 α → Vec3 α)) : Vec3 α := fs.foldr (fun f v => f v) v

theorem through_cons (v : Vec3 α) (f : Vec3 α → Vec3 α) (fs : List (Vec3 α → Vec3 α)) :
    v.through (f :: fs) = f (v.through fs) := rfl

/-- The point turned about an axis by the angle with the given cosine and sine. -/
def turned [CommRing α] (axis : Axis) (c s : α) (v : Vec3 α) : Vec3 α :=
  match axis with
  | .x => ⟨v.x, c * v.y - s * v.z, s * v.y + c * v.z⟩
  | .y => ⟨c * v.x + s * v.z, v.y, c * v.z - s * v.x⟩
  | .z => ⟨c * v.x - s * v.y, s * v.x + c * v.y, v.z⟩

end Vec3

namespace Matrix4

variable {α : Type} [CommRing α]

/-- The last row is that of the identity. -/
def IsAffine (m : Matrix4 α) : Prop := m.row3 = ⟨0, 0, 0, 1⟩

/-- The matrix takes every point to its image under `f`, and the fourth coordinate stays one. -/
structure Realizes (m : Matrix4 α) (f : Vec3 α → Vec3 α) : Prop where
  affine : m.IsAffine
  apply : ∀ v : Vec3 α, m.apply v.homogeneous = (f v).homogeneous

theorem mul_row3 (a b : Matrix4 α) : (a * b).row3 =
    ⟨a.row3.dot ⟨b.row0.x, b.row1.x, b.row2.x, b.row3.x⟩,
      a.row3.dot ⟨b.row0.y, b.row1.y, b.row2.y, b.row3.y⟩,
      a.row3.dot ⟨b.row0.z, b.row1.z, b.row2.z, b.row3.z⟩,
      a.row3.dot ⟨b.row0.w, b.row1.w, b.row2.w, b.row3.w⟩⟩ := rfl

theorem IsAffine.mul {a b : Matrix4 α} (ha : a.IsAffine) (hb : b.IsAffine) :
    (a * b).IsAffine := by
  unfold IsAffine at *
  rw [mul_row3, ha, hb]
  simp [Vec4.dot]

theorem apply_mul (a b : Matrix4 α) (v : Vec4 α) : (a * b).apply v = a.apply (b.apply v) := by
  have entry (r : Vec4 α) : (Vec4.mk (r.dot ⟨b.row0.x, b.row1.x, b.row2.x, b.row3.x⟩)
      (r.dot ⟨b.row0.y, b.row1.y, b.row2.y, b.row3.y⟩)
      (r.dot ⟨b.row0.z, b.row1.z, b.row2.z, b.row3.z⟩)
      (r.dot ⟨b.row0.w, b.row1.w, b.row2.w, b.row3.w⟩)).dot v = r.dot (b.apply v) := by
    simp only [Vec4.dot, apply]
    ring
  exact Vec4.ext (entry a.row0) (entry a.row1) (entry a.row2) (entry a.row3)

theorem apply_identity (v : Vec4 α) : (identity : Matrix4 α).apply v = v := by
  simp [apply, identity, Vec4.dot]

theorem isAffine_identity : (identity : Matrix4 α).IsAffine := rfl

/-! ### Moves, stretches and turns -/

theorem realizes_shift (d : Vec3 α) : (shift d).Realizes fun v => v + d where
  affine := rfl
  apply v := by
    have sum : v + d = ⟨v.x + d.x, v.y + d.y, v.z + d.z⟩ := rfl
    simp [Matrix4.apply, shift, Vec4.dot, Vec3.homogeneous, sum]

theorem realizes_scaling (k : Vec3 α) : (scaling k).Realizes (Vec3.zipWith (· * ·) k) where
  affine := rfl
  apply v := by simp [Matrix4.apply, scaling, Vec4.dot, Vec3.homogeneous, Vec3.zipWith]

theorem realizes_turn (axis : Axis) (c s : α) :
    (turn axis c s).Realizes (Vec3.turned axis c s) where
  affine := by cases axis <;> rfl
  apply v := by
    cases axis with
    | x => simp [Matrix4.apply, turn, Vec4.dot, Vec3.homogeneous, Vec3.turned, sub_eq_add_neg]
    | y =>
      simp [Matrix4.apply, turn, Vec4.dot, Vec3.homogeneous, Vec3.turned, sub_eq_add_neg, add_comm]
    | z => simp [Matrix4.apply, turn, Vec4.dot, Vec3.homogeneous, Vec3.turned, sub_eq_add_neg]

/-! ### Products -/

/-- A product of matrices takes a point through their maps, the last one first. -/
theorem apply_foldl {ms : List (Matrix4 α)} {fs : List (Vec3 α → Vec3 α)}
    (h : List.Forall₂ Realizes ms fs) (m : Matrix4 α) (v : Vec3 α) :
    (ms.foldl (· * ·) m).apply v.homogeneous = m.apply (v.through fs).homogeneous := by
  induction h generalizing m with
  | nil => rfl
  | @cons a f ms fs ha _ ih => rw [List.foldl_cons, ih, apply_mul, ha.apply, Vec3.through_cons]

theorem IsAffine.foldl {ms : List (Matrix4 α)} (h : ∀ a ∈ ms, a.IsAffine) {m : Matrix4 α}
    (hm : m.IsAffine) : (ms.foldl (· * ·) m).IsAffine := by
  induction ms generalizing m with
  | nil => exact hm
  | cons a ms ih =>
    exact ih (fun b hb => h b (List.mem_cons_of_mem a hb)) (hm.mul (h a List.mem_cons_self))

end Matrix4

end Flipbook
