import Flipbook.Proofs.ClosedMesh
import Mathlib.Algebra.Order.BigOperators.Group.List

/-!
# The triangles of a grid

A grid is cut cell by cell, and the triangles of a cell are those of the scheme
`Triangulation.cellFaces_eq`, whatever its flags: turning the triangles over exchanges two corners
of each (`Triangulation.faces_flip`), and leaving out the poles drops the triangles that have a side
in the first or the last column, and no others (`Triangulation.faces_skipPoles`).

That the corners fit into an array of six rows for every cell is said with a second builder.
`Triangulation.filled` writes them one after the other into an array that is there from the start,
stops where a row or a point is not there, and gives back the rows before the place that it has come
to, as long as all of them have been written.  It gives the mesh for every grid
(`Triangulation.IsGrid.filled_eq`).
-/

namespace Flipbook

/-! ### Arrays that are filled -/

/-- An array of a fixed size that is filled from its start on. -/
structure Filling (β : Type) where
  /-- The rows; one that has not been written holds nothing. -/
  rows : Array (Option β)
  /-- The place that the next triangle goes to. -/
  next : Nat

namespace Filling

variable {β : Type}

/-- The array in which nothing has been written. -/
def allocate (size : Nat) : Filling β := ⟨Array.replicate size none, 0⟩

/-- Writes a row some places behind the next one; past the end there is none to write. -/
def write (f : Filling β) (offset : Nat) (x : β) : Option (Filling β) :=
  if f.next + offset < f.rows.size then
    some { f with rows := f.rows.setIfInBounds (f.next + offset) (some x) }
  else none

/-- Writes the corners of a triangle and goes on to the place behind them. -/
def addTriangle (a b c : β) (f : Filling β) : Option (Filling β) := do
  let f ← f.write 0 a
  let f ← f.write 1 b
  let f ← f.write 2 c
  return { f with next := f.next + 3 }

/-- The rows before the next place, unless one of them has not been written. -/
def taken (f : Filling β) : Option (List β) := (f.rows.toList.take f.next).mapM id

/-- The first rows have been written, with these values. -/
def Written (rows : Array (Option β)) (xs : List β) : Prop :=
  ∀ i < xs.length, rows[i]? = some xs[i]?

/-- An array of `n` rows has been filled with these. -/
structure Holds (n : Nat) (xs : List β) (f : Filling β) : Prop where
  size : f.rows.size = n
  next : f.next = xs.length
  written : Written f.rows xs

/-- A step fills in these rows, as long as there is room for them. -/
def Fills (n : Nat) (ys : List β) (step : Filling β → Option (Filling β)) : Prop :=
  ∀ f xs, Holds n xs f → xs.length + ys.length ≤ n →
    ∃ g, step f = some g ∧ Holds n (xs ++ ys) g

variable {n : Nat}

theorem holds_allocate (n : Nat) : Holds n [] (allocate n : Filling β) where
  size := Array.size_replicate
  next := rfl
  written := by simp [Written]

theorem Written.set {rows : Array (Option β)} {xs : List β} (h : Written rows xs)
    (hroom : xs.length < rows.size) (x : β) :
    Written (rows.setIfInBounds xs.length (some x)) (xs ++ [x]) := by
  intro i hi
  rw [List.length_append, List.length_singleton] at hi
  rw [Array.getElem?_setIfInBounds]
  by_cases hlast : xs.length = i
  · rw [if_pos hlast, if_pos hroom, ← hlast, List.getElem?_concat_length]
  · rw [if_neg hlast, h i (by omega), List.getElem?_append_left (by omega)]

theorem exists_write {f : Filling β} {xs : List β} (h : Written f.rows xs) (offset : Nat)
    (hplace : f.next + offset = xs.length) (hroom : xs.length < f.rows.size) (x : β) :
    ∃ g, f.write offset x = some g ∧ g.next = f.next ∧ g.rows.size = f.rows.size ∧
      Written g.rows (xs ++ [x]) := by
  refine ⟨_, if_pos (hplace ▸ hroom), rfl, Array.size_setIfInBounds, ?_⟩
  rw [hplace]
  exact h.set hroom x

theorem fills_nil : Fills n ([] : List β) some := by
  intro f xs h _
  exact ⟨f, rfl, by rwa [List.append_nil]⟩

theorem fills_addTriangle (a b c : β) : Fills n [a, b, c] (addTriangle a b c) := by
  rintro f xs ⟨hsize, hnext, hwritten⟩ hroom
  simp only [List.length_cons, List.length_nil] at hroom
  obtain ⟨f₁, h₁, hnext₁, hsize₁, hwritten₁⟩ :=
    exists_write hwritten 0 (by omega) (by omega) a
  obtain ⟨f₂, h₂, hnext₂, hsize₂, hwritten₂⟩ :=
    exists_write hwritten₁ 1 (by simp; omega) (by simp; omega) b
  obtain ⟨f₃, h₃, hnext₃, hsize₃, hwritten₃⟩ :=
    exists_write hwritten₂ 2 (by simp; omega) (by simp; omega) c
  refine ⟨{ f₃ with next := f₃.next + 3 }, ?_, ⟨by simp only; omega, ?_, ?_⟩⟩
  · simp only [addTriangle, h₁, h₂, h₃, Option.bind_eq_bind, Option.bind_some, Option.pure_def]
  · simp only [List.length_append, List.length_cons, List.length_nil]
    omega
  · simpa using hwritten₃

theorem Fills.bind {ys zs : List β} {step step' : Filling β → Option (Filling β)}
    (h : Fills n ys step) (h' : Fills n zs step') :
    Fills n (ys ++ zs) fun f => step f >>= step' := by
  intro f xs hf hroom
  rw [List.length_append] at hroom
  obtain ⟨g, hg, hgholds⟩ := h f xs hf (by omega)
  obtain ⟨k, hk, hkholds⟩ := h' g (xs ++ ys) hgholds (by rw [List.length_append]; omega)
  refine ⟨k, ?_, by rwa [← List.append_assoc]⟩
  simp only [hg, hk, Option.bind_eq_bind, Option.bind_some]

/-- Steps one after the other fill in the rows of all. -/
theorem Fills.foldlM {ι : Type} {is : List ι} {rows : ι → List β}
    {step : ι → Filling β → Option (Filling β)} (h : ∀ i ∈ is, Fills n (rows i) (step i)) :
    Fills n (is.flatMap rows) fun f => is.foldlM (fun f i => step i f) f := by
  induction is with
  | nil => exact fills_nil
  | cons i is ih =>
    simp only [List.foldlM_cons, List.flatMap_cons]
    exact (h i List.mem_cons_self).bind (ih fun j hj => h j (List.mem_cons_of_mem i hj))

theorem Holds.taken {f : Filling β} {xs : List β} (h : Holds n xs f) : f.taken = some xs := by
  have hrows : f.rows.toList.take f.next = xs.map some := by
    refine List.ext_getElem? fun i => ?_
    rw [List.getElem?_take, h.next, List.getElem?_map]
    split
    · rename_i hi
      rw [Array.getElem?_toList, h.written i hi, List.getElem?_eq_getElem hi]
      rfl
    · rw [List.getElem?_eq_none (by omega)]
      rfl
  calc f.taken = (xs.map some).mapM id := by rw [Filling.taken, hrows]
    _ = xs.mapM fun x => pure (id x) := List.mapM_map
    _ = some xs := by rw [List.mapM_pure, List.map_id]; rfl

theorem Fills.taken {ys : List β} {step : Filling β → Option (Filling β)} (h : Fills n ys step)
    (hroom : ys.length ≤ n) : (step (allocate n)).bind Filling.taken = some ys := by
  obtain ⟨g, hg, hholds⟩ := h _ _ (holds_allocate n) (by simpa using hroom)
  rw [hg, Option.bind_some]
  exact hholds.taken

end Filling

/-! ### Corners and faces -/

namespace Face

variable {P : Type}

/-- The corners in order. -/
def corners (f : Face P) : List P := [f.a, f.b, f.c]

/-- The face turned over: its second and third corner have changed places. -/
def turned (f : Face P) : Face P := ⟨f.a, f.c, f.b⟩

theorem flatMap_corners : ∀ {xs : List P}, 3 ∣ xs.length → (ofCorners xs).flatMap corners = xs
  | [], _ => rfl
  | [_], h | [_, _], h => by simp at h
  | a :: b :: c :: rest, h => by
    have hrest : 3 ∣ rest.length := by
      simp only [List.length_cons] at h
      omega
    simp only [ofCorners, List.flatMap_cons, corners, flatMap_corners hrest, List.cons_append,
      List.nil_append]

/-- Two corners of the face lie in a column: the face has a side along it, or shrinks to one. -/
def liesAlong (f : Face Triangulation.Place) (column : Nat) : Bool :=
  2 ≤ f.corners.countP (·.2 = column)

end Face

namespace Triangulation

open Wheel

variable (t : Triangulation)

/-- **A flipped grid has the same triangles turned over.** -/
theorem faces_flip : ({ t with flip := true } : Triangulation).faces =
    ({ t with flip := false } : Triangulation).faces.map Face.turned := by
  rw [faces_eq, faces_eq, List.map_flatMap]
  refine List.flatMap_congr ?_
  rintro ⟨i, j⟩ -
  rw [cellFaces_eq, cellFaces_eq, List.map_append]
  simp only [apply_ite (List.map Face.turned)]
  rfl

theorem liesAlong_nextFace {i j column : Nat} (hj : j + 1 < t.columns) :
    (t.nextFace i j).liesAlong column = decide (j + 1 = column) := by
  have hnext : next t.columns j = j + 1 := Nat.mod_eq_of_lt hj
  unfold nextFace face
  rw [hnext]
  split <;> simp [Face.liesAlong, Face.corners, List.countP_cons] <;> grind

theorem liesAlong_ownFace {i j column : Nat} (hj : j + 1 < t.columns) :
    (t.ownFace i j).liesAlong column = decide (j = column) := by
  have hnext : next t.columns j = j + 1 := Nat.mod_eq_of_lt hj
  unfold ownFace face
  rw [hnext]
  split <;> simp [Face.liesAlong, Face.corners, List.countP_cons] <;> grind

/-- **Without poles the triangles along the first and the last column are left out**, and no
others, where the columns do not close to a ring. -/
theorem faces_skipPoles (h : t.wrapColumns = false) :
    ({ t with skipPoles := true } : Triangulation).faces =
      ({ t with skipPoles := false } : Triangulation).faces.filter fun f =>
        !(f.liesAlong 0 || f.liesAlong (t.columns - 1)) := by
  have hcells : t.cells = t.columns - 1 := by simp [cells, h]
  rw [faces_eq, faces_eq, List.filter_flatMap]
  refine List.flatMap_congr ?_
  rintro ⟨i, j⟩ hc
  have hj : j + 1 < t.columns := by
    have hlt : j < t.cells := ((mem_cellList _).1 hc).2
    omega
  have hkept : ({ t with skipPoles := false } : Triangulation).cellFaces (i, j) =
      [t.nextFace i j, t.ownFace i j] := by
    rw [cellFaces_eq]
    rfl
  have hcut : ({ t with skipPoles := true } : Triangulation).cellFaces (i, j) =
      (if j == t.cells - 1 then [] else [t.nextFace i j]) ++
        (if j == 0 then [] else [t.ownFace i j]) := by
    rw [cellFaces_eq]
    rfl
  have hlast : j = t.cells - 1 ↔ j + 1 = t.columns - 1 := by omega
  have hbefore : j ≠ t.columns - 1 := by omega
  rw [hkept, hcut, List.filter_cons, List.filter_singleton]
  simp only [liesAlong_nextFace t hj, liesAlong_ownFace t hj, beq_iff_eq, hlast, hbefore]
  by_cases hfirst : j = 0 <;> by_cases hend : j + 1 = t.columns - 1 <;> simp [hfirst, hend]

/-! ### Filling an array -/

section Fill

variable {α : Type}

/-- The point at a place of a grid that is given row by row; outside the grid there is none. -/
def pointAt? (points : Array (Vec3 α)) (p : Place) : Option (Vec3 α) :=
  if p.1 < t.rows ∧ p.2 < t.columns then points[p.1 * t.columns + p.2]? else none

/-- Writes a triangle, turned over if the triangulation says so, unless it is to be left out. -/
def fillSide (skip : Bool) (a b c : Vec3 α) (f : Filling (Vec3 α)) : Option (Filling (Vec3 α)) :=
  if skip then some f else if t.flip then f.addTriangle a c b else f.addTriangle a b c

/-- Writes the triangles of a cell. -/
def fillCell (points : Array (Vec3 α)) (i j : Nat) (f : Filling (Vec3 α)) :
    Option (Filling (Vec3 α)) := do
  let i' := (i + 1) % t.rows
  let j' := (j + 1) % t.columns
  let a ← t.pointAt? points (i, j)
  let b ← t.pointAt? points (i, j')
  let c ← t.pointAt? points (i', j')
  let d ← t.pointAt? points (i', j)
  let f ← t.fillSide (t.skipPoles && j == t.cells - 1) a b c f
  t.fillSide (t.skipPoles && j == 0) a c d f

/-- The triangles of a grid, written one after the other into an array with six rows for every
cell. -/
def filled (points : Array (Vec3 α)) : Option (List (Vec3 α)) := do
  let f ← (List.range t.rows).foldlM
    (fun f i => (List.range t.cells).foldlM (fun f j => t.fillCell points i j f) f)
    (Filling.allocate (t.rows * t.cells * 6))
  f.taken

variable {t} {points : Array (Vec3 α)} {place : Place → Vec3 α} {n : Nat}

theorem exists_isGrid (hrows : 1 ≤ t.rows) (hcolumns : 1 ≤ t.columns)
    (hpoints : points.size = t.rows * t.columns) : ∃ place, t.IsGrid points place := by
  have hpos : 0 < points.size := hpoints ▸ Nat.mul_pos hrows hcolumns
  refine ⟨fun p => points[p.1 * t.columns + p.2]?.getD points[0], fun i hi j hj => ?_⟩
  have hlt : i * t.columns + j < points.size := hpoints ▸ place_lt hi hj
  simp only [Array.getElem?_eq_getElem hlt, Option.getD_some]

theorem IsGrid.pointAt? (h : t.IsGrid points place) {i j : Nat} (hi : i < t.rows)
    (hj : j < t.columns) : t.pointAt? points (i, j) = some (place (i, j)) := by
  rw [Triangulation.pointAt?, if_pos ⟨hi, hj⟩, h i hi j hj]

open Filling

theorem fills_side (skip : Bool) (a b c : Place) :
    Fills n ((if skip then [] else t.triangle a b c).map place)
      (t.fillSide skip (place a) (place b) (place c)) := by
  cases skip with
  | true => exact fills_nil
  | false =>
    unfold triangle fillSide
    cases t.flip with
    | true => exact fills_addTriangle _ _ _
    | false => exact fills_addTriangle _ _ _

theorem IsGrid.fillCell (h : t.IsGrid points place) {i j : Nat} (hi : i < t.rows)
    (hj : j < t.columns) :
    Fills n ((t.cellCorners i j).map place) (t.fillCell points i j) := by
  have hi' : (i + 1) % t.rows < t.rows := Nat.mod_lt _ (by omega)
  have hj' : (j + 1) % t.columns < t.columns := Nat.mod_lt _ (by omega)
  unfold Triangulation.fillCell cellCorners
  simp only [h.pointAt? hi hj, h.pointAt? hi hj', h.pointAt? hi' hj', h.pointAt? hi' hj,
    Option.bind_eq_bind, Option.bind_some, List.map_append]
  exact (fills_side _ _ _ _).bind (fills_side _ _ _ _)

theorem IsGrid.fillCells (h : t.IsGrid points place) :
    Fills n (t.corners.map place) fun f => (List.range t.rows).foldlM
      (fun f i => (List.range t.cells).foldlM (fun f j => t.fillCell points i j f) f) f := by
  simp only [corners, List.map_flatMap]
  refine .foldlM fun i hi => .foldlM fun j hj => ?_
  exact h.fillCell (List.mem_range.1 hi) (Nat.lt_of_lt_of_le (List.mem_range.1 hj) t.cells_le)

/-- What each thing of a list gives adds up to no more than so many for each of them. -/
theorem length_flatMap_le {ι β : Type} (is : List ι) {f : ι → List β} {m : Nat}
    (h : ∀ i ∈ is, (f i).length ≤ m) : (is.flatMap f).length ≤ is.length * m := by
  have hsum := List.sum_le_card_nsmul (is.map fun i => (f i).length) m (by simpa using h)
  rwa [List.length_map, Nat.nsmul_eq_mul, ← List.length_flatMap] at hsum

theorem length_corners_le : t.corners.length ≤ t.rows * t.cells * 6 := by
  have hcell (i j : Nat) : (t.cellCorners i j).length ≤ 6 := by
    have hside (skip : Bool) (a b c : Place) :
        (if skip = true then [] else t.triangle a b c).length ≤ 3 := by
      cases skip
      · simp only [Bool.false_eq_true, ↓reduceIte, triangle]
        split <;> simp
      · simp
    rw [cellCorners, List.length_append]
    exact Nat.add_le_add (hside ..) (hside ..)
  have hrow (i : Nat) : ((List.range t.cells).flatMap (t.cellCorners i)).length ≤ t.cells * 6 := by
    have h := length_flatMap_le (List.range t.cells) fun j _ => hcell i j
    rwa [List.length_range] at h
  have h := length_flatMap_le (List.range t.rows) fun i _ => hrow i
  rwa [List.length_range, ← Nat.mul_assoc] at h

/-- **Filling an array gives the mesh**: no row is written past its end, and every row that is given
back has been written. -/
theorem IsGrid.filled_eq (h : t.IsGrid points place) :
    t.filled points = some (t.mesh points).toList := by
  rw [h.toList_mesh]
  exact h.fillCells.taken ((List.length_map _).trans_le length_corners_le)

end Fill

/-- **The triangles of a grid**, whatever the flags.  The corners fit into the array that they are
written to and every row that is given back has been written; they are the points of the grid at the
corners of the faces.  With the poles every cell has two triangles, in the order of the cells;
flipping exchanges the second and the third corner of each; and where the columns do not close to a
ring, what is left out at the poles are the triangles with two corners in the first or in the last
column. -/
theorem triangles_of_grid {α : Type} (t : Triangulation) (hrows : 1 ≤ t.rows)
    (hcolumns : 2 ≤ t.columns) {points : Array (Vec3 α)}
    (hpoints : points.size = t.rows * t.columns) :
    t.filled points = some (t.mesh points).toList ∧
    (∃ place, t.IsGrid points place ∧
      ∀ t' : Triangulation, t'.rows = t.rows → t'.columns = t.columns →
        (t'.mesh points).toList = (t'.faces.flatMap Face.corners).map place) ∧
    (∀ f ∈ t.faces, ∀ p ∈ f.corners, p.1 < t.rows ∧ p.2 < t.columns) ∧
    (t.skipPoles = false →
      t.faces = ((List.range t.rows).flatMap fun i => (List.range t.cells).flatMap fun j =>
        [t.nextFace i j, t.ownFace i j]) ∧
      t.faces.length = 2 * t.rows * t.cells ∧
      t.cells = if t.wrapColumns then t.columns else t.columns - 1) ∧
    ({ t with flip := true } : Triangulation).faces =
      ({ t with flip := false } : Triangulation).faces.map Face.turned ∧
    (t.wrapColumns = false → ({ t with skipPoles := true } : Triangulation).faces =
      ({ t with skipPoles := false } : Triangulation).faces.filter fun f =>
        !(f.liesAlong 0 || f.liesAlong (t.columns - 1))) := by
  have hcorners (t' : Triangulation) : t'.faces.flatMap Face.corners = t'.corners :=
    Face.flatMap_corners t'.three_dvd_length_corners
  obtain ⟨place, hplace⟩ := exists_isGrid hrows (by omega) hpoints
  refine ⟨hplace.filled_eq, ⟨place, hplace, ?_⟩, ?_, ?_, t.faces_flip, t.faces_skipPoles⟩
  · intro t' hrows' hcolumns'
    have hplace' : t'.IsGrid points place := by rwa [IsGrid, hrows', hcolumns']
    rw [hcorners, hplace'.toList_mesh]
  · intro f hf p hp
    refine lt_of_mem_corners ?_
    rw [← hcorners]
    exact List.mem_flatMap.2 ⟨f, hf, hp⟩
  · intro hkept
    exact ⟨t.faces_of_poles_kept hkept, t.length_faces_of_poles_kept hkept, rfl⟩

/-- A grid of two rows and two columns, with a single cell in each row: flipped it has four
triangles, and none without its poles. -/
theorem triangles_of_grid_single_cells :
    let t : Triangulation := ⟨2, 2, false, false, true⟩
    let points : Array (Vec3 Nat) := #[⟨0, 0, 0⟩, ⟨0, 1, 0⟩, ⟨1, 0, 0⟩, ⟨1, 1, 0⟩]
    1 ≤ t.rows ∧ 2 ≤ t.columns ∧ points.size = t.rows * t.columns ∧
      t.filled points = some (t.mesh points).toList ∧ t.faces.length = 4 ∧
      t.faces.head? = some ⟨(0, 0), (1, 1), (0, 1)⟩ ∧
      ({ t with skipPoles := true } : Triangulation).faces = [] := by
  intro t points
  obtain ⟨hfilled, -, -, hkept, -, hskipped⟩ :=
    t.triangles_of_grid (by decide) (by decide) (rfl : points.size = t.rows * t.columns)
  obtain ⟨hfaces, hlength, -⟩ := hkept rfl
  refine ⟨by decide, by decide, rfl, hfilled, hlength, ?_, (hskipped rfl).trans (by decide)⟩
  rw [hfaces]
  rfl

end Triangulation

end Flipbook
