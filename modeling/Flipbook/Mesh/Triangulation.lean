import Flipbook.Geometry.Buffer

/-!
# Triangles of a grid

A surface is given by a grid of points whose rows close to a ring.  Every cell of the grid is cut
into two triangles.  `Triangulation.corners` lists the grid places of all corners, so that what
holds of a mesh as a surface can be read off without its coordinates.
-/

namespace Flipbook

/-- How a grid is cut into triangles. -/
structure Triangulation where
  /-- The number of rows; the first one follows the last. -/
  rows : Nat
  /-- The number of columns. -/
  columns : Nat
  /-- The first column follows the last. -/
  wrapColumns : Bool
  /-- The first and the last column are single points, at which no triangles lie. -/
  skipPoles : Bool
  /-- The triangles turn the other way round. -/
  flip : Bool
  deriving DecidableEq, Repr

namespace Triangulation

/-- A place in a grid: its row and its column. -/
abbrev Place := Nat × Nat

variable (t : Triangulation)

/-- The number of cells in a row. -/
def cells : Nat := if t.wrapColumns then t.columns else t.columns - 1

/-- The corners of one triangle in order. -/
def triangle (a b c : Place) : List Place := if t.flip then [a, c, b] else [a, b, c]

/-- The corners of the triangles of a cell.  At a pole one side of the cell is a point, and the
triangle with that side is left out. -/
def cellCorners (i j : Nat) : List Place :=
  let i' := (i + 1) % t.rows
  let j' := (j + 1) % t.columns
  (if t.skipPoles && j == t.cells - 1 then [] else t.triangle (i, j) (i, j') (i', j'))
    ++ (if t.skipPoles && j == 0 then [] else t.triangle (i, j) (i', j') (i', j))

/-- The corners of all triangles, cell by cell. -/
def corners : List Place :=
  (List.range t.rows).flatMap fun i => (List.range t.cells).flatMap (t.cellCorners i)

/-- The triangles of a grid whose points are given row by row. -/
def mesh {α : Type} (points : Array (Vec3 α)) : Array (Vec3 α) :=
  (t.corners.filterMap fun p => points[p.1 * t.columns + p.2]?).toArray

/-- The triangles of an array of points.  A grid of one column has no cells. -/
def ofArray {α : Type} (grid : NumArray α) (wrapColumns skipPoles flip : Bool) :
    Except GeometryFault (Array (Vec3 α)) :=
  match grid.atLeastOne.shape with
  | [rows, columns, 3] =>
    if columns < 2 then .ok #[]
    else
      let t : Triangulation := ⟨rows, columns, wrapColumns, skipPoles, flip⟩
      .ok (t.mesh (GeometryBuffer.triples grid.entries.toList).toArray)
  | shape => .error (.gridShape shape)

end Triangulation

end Flipbook
