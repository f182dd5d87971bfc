import Flipbook.Proofs.PointRows
import Mathlib.Data.List.Basic

/-!
# Arrays that are combined row by row

An array of rows of three may be combined with another one, or with a single row that is repeated
for each of its rows.  In either case what comes out are the rows of both, combined coordinate by
coordinate (`NumArray.zipWith?_rows`).
-/

namespace Flipbook.NumArray

/-- The array of the coordinates of vectors, one vector in each row. -/
def ofRows (rows : List (Vec3 Float)) : NumArray Float :=
  ⟨[rows.length, 3], (rows.flatMap Vec3.toList).toArray⟩

theorem getElem?_flatMap_toList (rows : List (Vec3 Float)) (i : Nat) :
    (rows.flatMap Vec3.toList)[i]? = rows[i / 3]?.bind fun r => r.toList[i % 3]? := by
  induction rows generalizing i with
  | nil => simp
  | cons r rows ih =>
    have hlength : r.toList.length = 3 := rfl
    rw [List.flatMap_cons]
    by_cases hi : i < 3
    · rw [List.getElem?_append_left (by omega), Nat.div_eq_of_lt hi, Nat.mod_eq_of_lt hi]
      rfl
    · obtain ⟨j, rfl⟩ : ∃ j, i = j + 3 := ⟨i - 3, by omega⟩
      rw [List.getElem?_append_right (by omega), hlength, Nat.add_sub_cancel, ih,
        Nat.add_div_right j (by decide), Nat.add_mod_right]
      rfl

/-- Repeated to the shape of rows, the array has the entries of these rows. -/
def RepeatsTo (a : NumArray Float) (rows : List (Vec3 Float)) : Prop :=
  ∀ i < 3 * rows.length,
    a.entries[sourceIndex [rows.length, 3] a.shape i]? = (rows.flatMap Vec3.toList)[i]?

theorem repeatsTo_ofRows (rows : List (Vec3 Float)) : (ofRows rows).RepeatsTo rows := by
  intro i hi
  have hplace : sourceIndex [rows.length, 3] [rows.length, 3] i = i := by
    have hrow : i / 3 < rows.length := by omega
    simp only [sourceIndex, List.reverse_cons, List.reverse_nil, List.nil_append,
      List.cons_append, placeIn, Nat.mod_eq_of_lt hrow]
    split <;> split <;> omega
  rw [ofRows, hplace, List.getElem?_toArray]

theorem repeatsTo_vector (v : Vec3 Float) (n : Nat) :
    (vector v.toList).RepeatsTo (List.replicate n v) := by
  intro i hi
  rw [List.length_replicate] at hi ⊢
  have hplace : sourceIndex [n, 3] [3] i = i % 3 := by
    simp [sourceIndex, placeIn]
  have hrow : i / 3 < n := by omega
  rw [getElem?_flatMap_toList, List.getElem?_replicate, if_pos hrow]
  show v.toList.toArray[sourceIndex [n, 3] [3] i]? = _
  rw [hplace, List.getElem?_toArray]
  rfl

theorem getElem?_zipWith_toList (f : Float → Float → Float) (u v : Vec3 Float) (i : Nat) :
    (u.toList[i]?.bind fun x => v.toList[i]?.bind fun y => some (f x y)) =
      (u.zipWith f v).toList[i]? := by
  match i with
  | 0 | 1 | 2 => rfl
  | i + 3 => rfl

theorem filterMap_range_getElem? {β : Type} (l : List β) :
    (List.range l.length).filterMap (fun i => l[i]?) = l := by
  induction l with
  | nil => rfl
  | cons x l ih =>
    rw [List.length_cons, List.range_succ_eq_map, List.filterMap_cons, List.filterMap_map]
    exact congrArg (x :: ·) ih

/-- **Arrays that are repeated to rows are combined row by row.** -/
theorem zipWith?_rows (f : Float → Float → Float) {a b : NumArray Float}
    {us vs : List (Vec3 Float)} (hlength : vs.length = us.length) (ha : a.RepeatsTo us)
    (hb : b.RepeatsTo vs) (hshape : commonShape a.shape b.shape = some [us.length, 3]) :
    zipWith? f a b = some (ofRows (List.zipWith (Vec3.zipWith f) us vs)) := by
  have hrows : (List.zipWith (Vec3.zipWith f) us vs).length = us.length := by
    rw [List.length_zipWith, hlength, Nat.min_self]
  have hentry (i : Nat) (hi : i < 3 * us.length) :
      (a.entries[sourceIndex [us.length, 3] a.shape i]?.bind fun x =>
        b.entries[sourceIndex [us.length, 3] b.shape i]?.bind fun y => some (f x y)) =
      ((List.zipWith (Vec3.zipWith f) us vs).flatMap Vec3.toList)[i]? := by
    have hb := hb i (hlength ▸ hi)
    rw [hlength] at hb
    rw [ha i hi, hb, getElem?_flatMap_toList, getElem?_flatMap_toList, getElem?_flatMap_toList]
    obtain ⟨u, hu⟩ : ∃ u, us[i / 3]? = some u := ⟨_, List.getElem?_eq_getElem (by omega)⟩
    obtain ⟨v, hv⟩ : ∃ v, vs[i / 3]? = some v := ⟨_, List.getElem?_eq_getElem (by omega)⟩
    rw [List.getElem?_zipWith, hu, hv]
    exact getElem?_zipWith_toList f u v (i % 3)
  have hvolume : volume [us.length, 3] =
      ((List.zipWith (Vec3.zipWith f) us vs).flatMap Vec3.toList).length := by
    rw [length_rows, hrows]
    show 1 * us.length * 3 = 3 * us.length
    omega
  rw [zipWith?, hshape, ofRows, hrows]
  refine congrArg (fun entries => some (NumArray.mk [us.length, 3] entries)) (Array.ext' ?_)
  rw [Array.toList_filterMap, Array.toList_range, hvolume]
  refine (List.filterMap_congr fun i hi => ?_).trans (filterMap_range_getElem? _)
  rw [List.mem_range, length_rows, hrows] at hi
  exact hentry i hi

theorem zipWith?_ofRows_vector (f : Float → Float → Float) (rows : List (Vec3 Float))
    (v : Vec3 Float) : zipWith? f (ofRows rows) (vector v.toList) =
      some (ofRows (rows.map fun r => r.zipWith f v)) := by
  have hshape : commonShape (ofRows rows).shape (vector v.toList).shape =
      some [rows.length, 3] := by
    simp [ofRows, vector, Vec3.toList, commonShape, commonReversed, commonSize]
  have hrows : List.zipWith (Vec3.zipWith f) rows (List.replicate rows.length v) =
      rows.map fun r => r.zipWith f v :=
    List.ext_getElem (by simp) fun i _ _ => by simp
  rw [zipWith?_rows f List.length_replicate (repeatsTo_ofRows rows) (repeatsTo_vector v _) hshape,
    hrows]

theorem zipWith?_vector_ofRows (f : Float → Float → Float) (v : Vec3 Float)
    (rows : List (Vec3 Float)) : zipWith? f (vector v.toList) (ofRows rows) =
      some (ofRows (rows.map fun r => v.zipWith f r)) := by
  have hlength : rows.length = (List.replicate rows.length v).length := List.length_replicate.symm
  have hshape : commonShape (vector v.toList).shape (ofRows rows).shape =
      some [(List.replicate rows.length v).length, 3] := by
    simp [ofRows, vector, Vec3.toList, commonShape, commonReversed, commonSize]
  have hrows : List.zipWith (Vec3.zipWith f) (List.replicate rows.length v) rows =
      rows.map fun r => v.zipWith f r :=
    List.ext_getElem (by simp) fun i _ _ => by simp
  rw [zipWith?_rows f hlength (repeatsTo_vector v _) (repeatsTo_ofRows rows) hshape, hrows]

end Flipbook.NumArray
