import Flipbook.Geometry.BufferInput
import Flipbook.Proofs.Outcome

/-!
# Points as rows of numbers

Points are given as rows of three numbers, each row a list of its own (`Value.nestedRows`) or all of
them in a single list (`Value.flatRows`).  The arrays that are read have the same entries in either
case, and the same points are taken from them (`GeometryBuffer.pointsOf_flatRows`): the rows, when
every coordinate is a number (`GeometryBuffer.pointsOf_nestedRows`).
-/

namespace Flipbook

namespace Value

/-- The values of a row of three. -/
def rowItems (r : Vec3 Scalar) : List Value := r.toList.map scalar

/-- Rows, each as a list. -/
def nestedRows (rows : List (Vec3 Scalar)) : Value := .list (rows.map fun r => .list (rowItems r))

/-- Rows in one list. -/
def flatRows (rows : List (Vec3 Scalar)) : Value := .list (rows.flatMap rowItems)

end Value

namespace NumArray

open Value (rowItems nestedRows flatRows)

theorem sharedShape_replicate (n : Nat) (shape : List Nat) :
    sharedShape (List.replicate (n + 1) (some shape)) = some shape := by
  induction n with
  | zero => rfl
  | succ n ih =>
    rw [List.replicate_succ, List.replicate_succ, sharedShape, ← List.replicate_succ, ih]
    · simp
    · simp

theorem shapesOf_scalars (ss : List Scalar) :
    shapesOf (ss.map Value.scalar) = List.replicate ss.length (some []) := by
  induction ss with
  | nil => rfl
  | cons s ss ih => rw [List.map_cons, shapesOf, ih]; rfl

theorem leavesOf_scalars (ss : List Scalar) :
    leavesOf (ss.map Value.scalar) = ss.map Value.scalar := by
  induction ss with
  | nil => rfl
  | cons s ss ih => rw [List.map_cons, leavesOf, ih]; rfl

theorem flatMap_rowItems (rows : List (Vec3 Scalar)) :
    rows.flatMap rowItems = (rows.flatMap Vec3.toList).map Value.scalar :=
  List.map_flatMap.symm

theorem shapesOf_rows (rows : List (Vec3 Scalar)) :
    shapesOf (rows.map fun r => .list (rowItems r)) = List.replicate rows.length (some [3]) := by
  induction rows with
  | nil => rfl
  | cons r rows ih => rw [List.map_cons, shapesOf, ih]; rfl

theorem leavesOf_rows (rows : List (Vec3 Scalar)) :
    leavesOf (rows.map fun r => .list (rowItems r)) = rows.flatMap rowItems := by
  induction rows with
  | nil => rfl
  | cons r rows ih => rw [List.map_cons, leavesOf, ih]; rfl

theorem length_rows {β : Type} (rows : List (Vec3 β)) :
    (rows.flatMap Vec3.toList).length = 3 * rows.length := by
  induction rows with
  | nil => rfl
  | cons r rows ih =>
    rw [List.flatMap_cons, List.length_append, ih, List.length_cons]
    show 3 + 3 * rows.length = 3 * (rows.length + 1)
    omega

/-- The numbers of rows, in order. -/
def rowNumbers (rows : List (Vec3 Scalar)) : Except ConversionFault (List Float) :=
  (rows.flatMap rowItems).mapM leafToFloat

theorem ofValue_flatRows (rows : List (Vec3 Scalar)) :
    ofValue (flatRows rows) = (rowNumbers rows).map fun xs => ⟨[3 * rows.length], xs.toArray⟩ := by
  have hlength : (rows.flatMap rowItems).length = 3 * rows.length := by
    rw [flatMap_rowItems, List.length_map, length_rows]
  have hshape : shapeOf? (flatRows rows) = some [3 * rows.length] := by
    rw [flatRows, shapeOf?, hlength, flatMap_rowItems, shapesOf_scalars]
    cases h : (rows.flatMap Vec3.toList).length with
    | zero => rfl
    | succ n => rw [sharedShape_replicate]; rfl
  have hleaves : leaves (flatRows rows) = rows.flatMap rowItems := by
    rw [flatRows, leaves, flatMap_rowItems, leavesOf_scalars]
  unfold ofValue
  rw [hshape, hleaves]
  rfl

theorem ofValue_nestedRows (r : Vec3 Scalar) (rows : List (Vec3 Scalar)) :
    ofValue (nestedRows (r :: rows)) =
      (rowNumbers (r :: rows)).map fun xs => ⟨[rows.length + 1, 3], xs.toArray⟩ := by
  have hshape : shapeOf? (nestedRows (r :: rows)) = some [rows.length + 1, 3] := by
    rw [nestedRows, shapeOf?, shapesOf_rows, List.length_cons, sharedShape_replicate]
    simp
  have hleaves : leaves (nestedRows (r :: rows)) = (r :: rows).flatMap rowItems := by
    rw [nestedRows, leaves, leavesOf_rows]
  unfold ofValue
  rw [hshape, hleaves]
  rfl

end NumArray

namespace GeometryBuffer

open Value NumArray

theorem triples_rows {β : Type} (vs : List (Vec3 β)) : triples (vs.flatMap Vec3.toList) = vs := by
  induction vs with
  | nil => rfl
  | cons v vs ih => rw [List.flatMap_cons]; exact congrArg (v :: ·) ih

/-- The points of a value: they are read as an array first. -/
def pointsOfValue (v : Value) : Except Fault (Array (Vec3 Float)) := do
  Fault.ofGeometry (pointsOf (← Fault.ofConversion (ofValue v)))

theorem pointsOfValue_rows (r : Vec3 Scalar) (rows : List (Vec3 Scalar)) :
    pointsOfValue (flatRows (r :: rows)) =
        (Fault.ofConversion (rowNumbers (r :: rows))).map (fun xs => (triples xs).toArray) ∧
      pointsOfValue (nestedRows (r :: rows)) =
        (Fault.ofConversion (rowNumbers (r :: rows))).map (fun xs => (triples xs).toArray) := by
  unfold pointsOfValue
  rw [ofValue_flatRows, ofValue_nestedRows]
  cases rowNumbers (r :: rows) with
  | error f => exact ⟨rfl, rfl⟩
  | ok xs =>
    have hflat : pointsOf ⟨[3 * (r :: rows).length], xs.toArray⟩ = .ok (triples xs).toArray :=
      if_pos (Nat.mul_mod_right ..)
    exact ⟨congrArg Fault.ofGeometry hflat, rfl⟩

theorem pointsOfValue_flatRows (rows : List (Vec3 Scalar)) :
    pointsOfValue (flatRows rows) = pointsOfValue (nestedRows rows) := by
  cases rows with
  | nil => rfl
  | cons r rows =>
    obtain ⟨hflat, hnested⟩ := pointsOfValue_rows r rows
    rw [hflat, hnested]

/-- The scalars of a row are read as the coordinates of a point. -/
def RowReads (r : Vec3 Scalar) (v : Vec3 Float) : Prop :=
  leafToFloat (.scalar r.x) = .ok v.x ∧ leafToFloat (.scalar r.y) = .ok v.y ∧
    leafToFloat (.scalar r.z) = .ok v.z

theorem rowNumbers_of_reads {rows : List (Vec3 Scalar)} {vs : List (Vec3 Float)}
    (h : List.Forall₂ RowReads rows vs) : rowNumbers rows = .ok (vs.flatMap Vec3.toList) := by
  induction h with
  | nil => rfl
  | @cons r v rows vs hr _ ih =>
    obtain ⟨hx, hy, hz⟩ := hr
    have hrow : (rowItems r).mapM leafToFloat = .ok v.toList := by
      simp only [rowItems, Vec3.toList, List.map_cons, List.map_nil, List.mapM_cons, List.mapM_nil,
        hx, hy, hz]
      rfl
    rw [rowNumbers] at ih ⊢
    rw [List.flatMap_cons, List.mapM_append, hrow, ih]
    rfl

/-- **Rows of numbers are the points with these coordinates.** -/
theorem pointsOfValue_nestedRows {rows : List (Vec3 Scalar)} {vs : List (Vec3 Float)}
    (h : List.Forall₂ RowReads rows vs) : pointsOfValue (nestedRows rows) = .ok vs.toArray := by
  cases h with
  | nil => rfl
  | @cons r v rows vs hr hrows =>
    rw [(pointsOfValue_rows r rows).2, rowNumbers_of_reads (.cons hr hrows)]
    show Except.ok (triples ((v :: vs).flatMap Vec3.toList)).toArray = _
    rw [triples_rows]

end GeometryBuffer

end Flipbook
