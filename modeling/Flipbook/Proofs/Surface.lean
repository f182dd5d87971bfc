import Flipbook.Raster.Wireframe
import Mathlib.Data.List.Nodup
import Mathlib.Tactic.Common

/-!
# Closed surfaces of triangles

A surface is a list of faces, triangles whose corners are known by name.  It is closed and
consistently oriented (`ClosedSurface`) when no face has two equal corners, every directed edge
belongs to exactly one face, and the edge in the other direction belongs to exactly one other face:
then every face meets another one across each of its sides, and both turn the same way.

`ClosedSurface.of_cells` is how closedness is shown of faces that come in cells: the sides of
different cells differ, and the reverse of every side is found in some cell.
-/

namespace Flipbook

/-- A triangle of a surface by the names of its corners in order. -/
structure Face (P : Type) where
  a : P
  b : P
  c : P
  deriving DecidableEq, Repr

namespace Face

variable {P Q : Type}

/-- The faces of a list of corners. -/
def ofCorners : List P → List (Face P)
  | a :: b :: c :: rest => ⟨a, b, c⟩ :: ofCorners rest
  | _ => []

/-- The sides in order, each from corner to corner. -/
def sides (f : Face P) : List (P × P) := [(f.a, f.b), (f.b, f.c), (f.c, f.a)]

/-- The face with its corners renamed. -/
def map (g : P → Q) (f : Face P) : Face Q := ⟨g f.a, g f.b, g f.c⟩

/-- The triangle of the places of the corners. -/
def triangle {α : Type} (place : P → Vec3 α) (f : Face P) : Triangle α :=
  ⟨place f.a, place f.b, place f.c⟩

/-- No two corners are equal. -/
def Proper (f : Face P) : Prop := f.a ≠ f.b ∧ f.b ≠ f.c ∧ f.c ≠ f.a

theorem mem_sides {f : Face P} {e : P × P} :
    e ∈ f.sides ↔ e = (f.a, f.b) ∨ e = (f.b, f.c) ∨ e = (f.c, f.a) := by
  simp [sides]

theorem proper_of_sides {f : Face P} (h : ∀ e ∈ f.sides, e.1 ≠ e.2) : f.Proper := by
  simp only [mem_sides] at h
  exact ⟨h _ (.inl rfl), h _ (.inr (.inl rfl)), h _ (.inr (.inr rfl))⟩

theorem Proper.swap_notMem {f : Face P} (hf : f.Proper) {e : P × P} (he : e ∈ f.sides) :
    e.swap ∉ f.sides := by
  obtain ⟨hab, hbc, hca⟩ := hf
  rw [mem_sides] at he ⊢
  rcases he with rfl | rfl | rfl <;>
    simp [hab, hbc, hca, Ne.symm hab, Ne.symm hbc, Ne.symm hca]

theorem ofCorners_append (ys : List P) :
    ∀ {xs : List P}, 3 ∣ xs.length → ofCorners (xs ++ ys) = ofCorners xs ++ ofCorners ys
  | [], _ => rfl
  | [_], h | [_, _], h => by simp at h
  | a :: b :: c :: rest, h => by
    have hrest : 3 ∣ rest.length := by
      simp only [List.length_cons] at h
      omega
    simp only [List.cons_append, ofCorners, ofCorners_append ys hrest]

theorem ofCorners_flatMap {ι : Type} {f : ι → List P} {is : List ι}
    (h : ∀ i ∈ is, 3 ∣ (f i).length) :
    ofCorners (is.flatMap f) = is.flatMap fun i => ofCorners (f i) := by
  induction is with
  | nil => rfl
  | cons i is ih =>
    rw [List.flatMap_cons, ofCorners_append _ (h i List.mem_cons_self),
      ih fun j hj => h j (List.mem_cons_of_mem i hj), List.flatMap_cons]

theorem triangles_map {α : Type} (place : P → Vec3 α) :
    ∀ xs : List P, Triangle.ofCorners (xs.map place) = (ofCorners xs).map (triangle place)
  | [] | [_] | [_, _] => rfl
  | a :: b :: c :: rest => by
    simp only [List.map_cons, Triangle.ofCorners, ofCorners, triangles_map place rest, triangle]

end Face

/-- The face at place `n` has the directed edge `e`. -/
def HasSide {P : Type} (fs : List (Face P)) (n : Nat) (e : P × P) : Prop :=
  ∃ f, fs[n]? = some f ∧ e ∈ f.sides

/-- The faces make up a closed, consistently oriented surface. -/
structure ClosedSurface {P : Type} (fs : List (Face P)) : Prop where
  /-- No face has two equal corners. -/
  proper : ∀ f ∈ fs, f.Proper
  /-- A directed edge belongs to no face but one. -/
  once : ∀ m e, HasSide fs m e → ∀ n, HasSide fs n e ↔ n = m
  /-- The reverse of a directed edge belongs to another face, and to no face but that. -/
  paired : ∀ m e, HasSide fs m e → ∃ n, n ≠ m ∧ ∀ l, HasSide fs l e.swap ↔ l = n

namespace ClosedSurface

variable {P : Type} {fs : List (Face P)}

theorem hasSide_unique (h : (fs.flatMap Face.sides).Nodup) {m n : Nat} {e : P × P}
    (hm : HasSide fs m e) (hn : HasSide fs n e) : n = m := by
  obtain ⟨-, hdisjoint⟩ := List.nodup_flatMap.1 h
  have apart {m n : Nat} (hm : HasSide fs m e) (hn : HasSide fs n e) : ¬ m < n := by
    intro hlt
    obtain ⟨f, hf, he⟩ := hm
    obtain ⟨g, hg, he'⟩ := hn
    obtain ⟨hmlen, rfl⟩ := List.getElem?_eq_some_iff.1 hf
    obtain ⟨hnlen, rfl⟩ := List.getElem?_eq_some_iff.1 hg
    exact List.pairwise_iff_getElem.1 hdisjoint m n hmlen hnlen hlt he he'
  have := apart hm hn
  have := apart hn hm
  omega

theorem of_sides (hproper : ∀ e ∈ fs.flatMap Face.sides, e.1 ≠ e.2)
    (hnodup : (fs.flatMap Face.sides).Nodup)
    (hswap : ∀ e ∈ fs.flatMap Face.sides, e.swap ∈ fs.flatMap Face.sides) : ClosedSurface fs where
  proper f hf := Face.proper_of_sides fun e he => hproper e (List.mem_flatMap.2 ⟨f, hf, he⟩)
  once m e hm n := ⟨fun hn => hasSide_unique hnodup hm hn, fun h => h ▸ hm⟩
  paired m e hm := by
    obtain ⟨f, hf, he⟩ := hm
    have hfs : f ∈ fs := List.mem_of_getElem? hf
    obtain ⟨g, hg, he'⟩ := List.mem_flatMap.1 (hswap e (List.mem_flatMap.2 ⟨f, hfs, he⟩))
    obtain ⟨n, hn⟩ := List.mem_iff_getElem?.1 hg
    have hside : HasSide fs n e.swap := ⟨g, hn, he'⟩
    refine ⟨n, ?_, fun l => ⟨fun hl => hasSide_unique hnodup hside hl, fun h => h ▸ hside⟩⟩
    rintro rfl
    obtain rfl : f = g := Option.some.inj (hf.symm.trans hn)
    have hf : f.Proper :=
      Face.proper_of_sides fun e he => hproper e (List.mem_flatMap.2 ⟨f, hfs, he⟩)
    exact hf.swap_notMem he he'

/-- Faces that come in cells are closed when sides lead from one corner to another, those of one
cell are all different, those of two cells too, and the reverse of every side is found in some
cell. -/
theorem of_cells {ι : Type} {cells : List ι} (hcells : cells.Nodup) {faces : ι → List (Face P)}
    (hproper : ∀ i ∈ cells, ∀ e ∈ (faces i).flatMap Face.sides, e.1 ≠ e.2)
    (hown : ∀ i ∈ cells, ((faces i).flatMap Face.sides).Nodup)
    (hapart : ∀ i ∈ cells, ∀ j ∈ cells, ∀ e, e ∈ (faces i).flatMap Face.sides →
      e ∈ (faces j).flatMap Face.sides → i = j)
    (hswap : ∀ i ∈ cells, ∀ e ∈ (faces i).flatMap Face.sides, ∃ j ∈ cells,
      e.swap ∈ (faces j).flatMap Face.sides) : ClosedSurface (cells.flatMap faces) := by
  have hsides : (cells.flatMap faces).flatMap Face.sides =
      cells.flatMap fun i => (faces i).flatMap Face.sides := List.flatMap_assoc
  refine of_sides (fun e he => ?_) ?_ fun e he => ?_
  · rw [hsides] at he
    obtain ⟨i, hi, hei⟩ := List.mem_flatMap.1 he
    exact hproper i hi e hei
  · rw [hsides, List.nodup_flatMap]
    refine ⟨hown, hcells.imp_of_mem fun {i j} hi hj hne => ?_⟩
    exact List.disjoint_left.2 fun e hei hej => hne (hapart i hi j hj e hei hej)
  · rw [hsides] at he ⊢
    obtain ⟨i, hi, hei⟩ := List.mem_flatMap.1 he
    obtain ⟨j, hj, hej⟩ := hswap i hi e hei
    exact List.mem_flatMap.2 ⟨j, hj, hej⟩

end ClosedSurface

end Flipbook
