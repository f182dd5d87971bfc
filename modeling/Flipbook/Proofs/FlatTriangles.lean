import Flipbook.Proofs.DepthOrder
import Flipbook.Raster.Wireframe

/-!
# Triangles without an area

A triangle with two equal corners is not seen from any side, wherever its corners lie
(`Triangle.not_facing_of_eq`).  Every coordinate of its normal is zero, or no number where a
coordinate of a corner is infinite or overflows, and neither is above zero.
-/

namespace Flipbook

namespace NullFloat

open Float.Model Float.Model.UnpackedFloat

/-- The float is one of the zeros, or no number. -/
def IsNull (x : Float) : Prop :=
  match x.toModel.unpack with
  | .zero _ | .notANumber => True
  | _ => False

theorem isNull_of_pack {x : Float} {u : UnpackedFloat}
    (hx : x.toModel = Float.Model.pack u) (hu : (∃ s, u = .zero s) ∨ u = .notANumber) :
    IsNull x := by
  unfold IsNull
  rw [hx]
  rcases hu with ⟨s, rfl⟩ | rfl
  · cases s <;> trivial
  · trivial

theorem IsNull.unpack {x : Float} (h : IsNull x) :
    (∃ s, x.toModel.unpack = .zero s) ∨ x.toModel.unpack = .notANumber := by
  unfold IsNull at h
  split at h
  · exact .inl ⟨_, ‹_›⟩
  · exact .inr ‹_›
  · exact h.elim

/-- A float less itself is zero, unless that is no number. -/
theorem isNull_sub_self (x : Float) : IsNull (x - x) := by
  refine isNull_of_pack (u := .sub .binary64 x.toModel.unpack x.toModel.unpack) rfl ?_
  cases x.toModel.unpack with
  | notANumber => exact .inr rfl
  | infinity s => cases s <;> exact .inr rfl
  | zero s => cases s <;> exact .inl ⟨_, rfl⟩
  | finite s m e hm =>
    refine .inl ⟨.positive, ?_⟩
    dsimp only [UnpackedFloat.sub]
    rw [Int.sub_self]
    rfl

theorem IsNull.sub {x y : Float} (hx : IsNull x) (hy : IsNull y) : IsNull (x - y) := by
  refine isNull_of_pack (u := .sub .binary64 x.toModel.unpack y.toModel.unpack) rfl ?_
  rcases hx.unpack with ⟨s, hs⟩ | hs <;> rcases hy.unpack with ⟨t, ht⟩ | ht <;> rw [hs, ht]
  · cases s <;> cases t <;> exact .inl ⟨_, rfl⟩
  all_goals exact .inr rfl

theorem IsNull.add {x y : Float} (hx : IsNull x) (hy : IsNull y) : IsNull (x + y) := by
  refine isNull_of_pack (u := .add .binary64 x.toModel.unpack y.toModel.unpack) rfl ?_
  rcases hx.unpack with ⟨s, hs⟩ | hs <;> rcases hy.unpack with ⟨t, ht⟩ | ht <;> rw [hs, ht]
  · cases s <;> cases t <;> exact .inl ⟨_, rfl⟩
  all_goals exact .inr rfl

theorem IsNull.mul_right {x : Float} (hx : IsNull x) (y : Float) : IsNull (x * y) := by
  refine isNull_of_pack (u := .mul .binary64 x.toModel.unpack y.toModel.unpack) rfl ?_
  rcases hx.unpack with ⟨s, hs⟩ | hs <;> rw [hs] <;> cases y.toModel.unpack
  case inl.zero | inl.finite => exact .inl ⟨_, rfl⟩
  all_goals exact .inr rfl

theorem float_mul_comm (x y : Float) : x * y = y * x := by
  have hsign (s t : Sign) : s * t = t * s := by cases s <;> cases t <;> rfl
  have hmul (u v : UnpackedFloat) : UnpackedFloat.mul .binary64 u v = .mul .binary64 v u := by
    cases u <;> cases v <;> dsimp only [UnpackedFloat.mul] <;>
      simp only [hsign, Nat.mul_comm, Int.add_comm]
  change Float.ofModel (.pack (.mul _ x.toModel.unpack y.toModel.unpack)) =
    Float.ofModel (.pack (.mul _ y.toModel.unpack x.toModel.unpack))
  rw [hmul]

theorem IsNull.mul_left {x : Float} (hx : IsNull x) (y : Float) : IsNull (y * x) :=
  float_mul_comm x y ▸ hx.mul_right y

theorem IsNull.not_pos {x : Float} (hx : IsNull x) : ¬ 0 < x := by
  intro hlt
  obtain ⟨a, b, ha, hb, hab⟩ := (FloatRank.lt_iff 0 x).1 hlt
  have hzero : FloatRank.rank? 0 = some (toLex (0, toLex (0, 0))) := rfl
  rw [hzero] at ha
  unfold FloatRank.rank? at hb
  rcases hx.unpack with ⟨s, hs⟩ | hs <;> rw [hs] at hb <;> cases hb
  cases ha
  exact lt_irrefl _ hab

end NullFloat

namespace Triangle

open NullFloat

/-- Every coordinate is null. -/
def NullVector (v : Vec3 Float) : Prop := IsNull v.x ∧ IsNull v.y ∧ IsNull v.z

theorem NullVector.sub_self (v : Vec3 Float) : NullVector (v - v) :=
  ⟨isNull_sub_self v.x, isNull_sub_self v.y, isNull_sub_self v.z⟩

theorem NullVector.cross_right {u : Vec3 Float} (hu : NullVector u) (v : Vec3 Float) :
    NullVector (u.cross v) :=
  let ⟨hx, hy, hz⟩ := hu
  ⟨(hy.mul_right _).sub (hz.mul_right _), (hz.mul_right _).sub (hx.mul_right _),
    (hx.mul_right _).sub (hy.mul_right _)⟩

theorem NullVector.cross_left {u : Vec3 Float} (hu : NullVector u) (v : Vec3 Float) :
    NullVector (v.cross u) :=
  let ⟨hx, hy, hz⟩ := hu
  ⟨(hz.mul_left _).sub (hy.mul_left _), (hx.mul_left _).sub (hz.mul_left _),
    (hy.mul_left _).sub (hx.mul_left _)⟩

theorem nullVector_cross_self (v : Vec3 Float) : NullVector (v.cross v) := by
  have hcommute (x y : Float) : IsNull (x * y - y * x) := float_mul_comm x y ▸ isNull_sub_self _
  exact ⟨hcommute _ _, hcommute _ _, hcommute _ _⟩

theorem NullVector.dot {u : Vec3 Float} (hu : NullVector u) (v : Vec3 Float) :
    IsNull (u.dot v) :=
  let ⟨hx, hy, hz⟩ := hu
  ((hx.mul_right _).add (hy.mul_right _)).add (hz.mul_right _)

/-- **A triangle with two equal corners is not seen from any side.** -/
theorem not_facing_of_eq {t : Triangle Float} (h : t.a = t.b ∨ t.b = t.c ∨ t.c = t.a)
    (view : Vec3 Float) : t.facing view = false := by
  have hnormal : NullVector t.normal := by
    unfold normal
    rcases h with h | h | h
    · rw [← h]
      exact (NullVector.sub_self t.a).cross_right _
    · rw [← h]
      exact nullVector_cross_self _
    · rw [h]
      exact (NullVector.sub_self t.a).cross_left _
  exact decide_eq_false (hnormal.dot view).not_pos

end Triangle

end Flipbook
