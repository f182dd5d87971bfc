import Flipbook.Proofs.DepthBuffer
import Flipbook.Proofs.ExactSegments

/-!
# Segments from either end

In exact arithmetic the samples of a segment are the same from either end, in the opposite order
(`Segment.fragments_reversed`).  Fragments of one colour leave the same canvas in whatever order
they are plotted, since a pixel keeps the nearest of them and they do not differ in what they paint
it with (`Canvas.plotAll_perm`).  So it does not matter from which end a segment is drawn
(`Segment.drawn_from_either_end`).
-/

namespace Flipbook

namespace Canvas

/-! ### The order of fragments of one colour -/

variable {α : Type} [LinearOrder α]

/-- Paints a place at a depth, unless what is there is as near. -/
def paintAt (c : Canvas α) (i : Nat) (depth : α) (color : Rgb) : Canvas α :=
  match c.depths[i]? with
  | none => c
  | some d =>
    if d < depth then
      { picture := { c.picture with pixels := c.picture.pixels.setIfInBounds i color }
        depths := c.depths.setIfInBounds i depth }
    else c

variable {c : Canvas α} {i j : Nat} {d : α}

theorem plot_of_index {f : Fragment α}
    (h : index? c.picture.height c.picture.width f = some i) :
    c.plot f = c.paintAt i f.depth f.color := by
  unfold plot
  rw [h]
  rfl

theorem plot_of_outside {f : Fragment α} (h : index? c.picture.height c.picture.width f = none) :
    c.plot f = c := by
  simp only [plot, h]

theorem paintAt_of_missing (h : c.depths[i]? = none) (depth : α) (color : Rgb) :
    c.paintAt i depth color = c := by
  simp only [paintAt, h]

theorem paintAt_of_farther (h : c.depths[i]? = some d) {depth : α} (hd : ¬ d < depth)
    (color : Rgb) : c.paintAt i depth color = c := by
  simp only [paintAt, h, if_neg hd]

theorem paintAt_of_nearer (h : c.depths[i]? = some d) {depth : α} (hd : d < depth)
    (color : Rgb) : c.paintAt i depth color =
      { picture := { c.picture with pixels := c.picture.pixels.setIfInBounds i color }
        depths := c.depths.setIfInBounds i depth } := by
  simp only [paintAt, h, if_pos hd]

theorem depths_paintAt_of_ne (hij : i ≠ j) (depth : α) (color : Rgb) :
    (c.paintAt i depth color).depths[j]? = c.depths[j]? := by
  cases hd : c.depths[i]? with
  | none => rw [paintAt_of_missing hd]
  | some d =>
    by_cases hnear : d < depth
    · rw [paintAt_of_nearer hd hnear]
      exact Array.getElem?_setIfInBounds_ne hij
    · rw [paintAt_of_farther hd hnear]

/-- Painting a place twice in one colour is painting it once, at the nearer of the depths. -/
theorem paintAt_paintAt (c : Canvas α) (i : Nat) (depth depth' : α) (color : Rgb) :
    (c.paintAt i depth color).paintAt i depth' color = c.paintAt i (max depth depth') color := by
  cases hd : c.depths[i]? with
  | none => rw [paintAt_of_missing hd, paintAt_of_missing hd, paintAt_of_missing hd]
  | some d =>
    obtain ⟨hlt, -⟩ := Array.getElem?_eq_some_iff.1 hd
    by_cases hnear : d < depth
    · have hthere : (c.paintAt i depth color).depths[i]? = some depth := by
        rw [paintAt_of_nearer hd hnear]
        exact Array.getElem?_setIfInBounds_self_of_lt hlt
      rw [paintAt_of_nearer hd (hnear.trans_le (le_max_left ..))]
      by_cases hnearer : depth < depth'
      · rw [paintAt_of_nearer hthere hnearer, paintAt_of_nearer hd hnear, max_eq_right hnearer.le]
        simp only [Array.setIfInBounds_setIfInBounds]
      · rw [paintAt_of_farther hthere hnearer, paintAt_of_nearer hd hnear,
          max_eq_left (not_lt.1 hnearer)]
    · rw [paintAt_of_farther hd hnear]
      by_cases hnear' : d < depth'
      · rw [max_eq_right ((not_lt.1 hnear).trans hnear'.le)]
      · rw [paintAt_of_farther hd hnear',
          paintAt_of_farther hd (not_lt.2 (max_le (not_lt.1 hnear) (not_lt.1 hnear')))]

theorem paintAt_comm_of_ne (c : Canvas α) (hij : i ≠ j) (depth depth' : α) (color color' : Rgb) :
    (c.paintAt i depth color).paintAt j depth' color' =
      (c.paintAt j depth' color').paintAt i depth color := by
  have hj := depths_paintAt_of_ne (c := c) hij depth color
  have hi := depths_paintAt_of_ne (c := c) hij.symm depth' color'
  cases hd : c.depths[i]? with
  | none => rw [paintAt_of_missing hd, paintAt_of_missing (hi.trans hd)]
  | some d =>
    by_cases hnear : d < depth
    · cases hd' : c.depths[j]? with
      | none => rw [paintAt_of_missing (hj.trans hd'), paintAt_of_missing hd']
      | some d' =>
        by_cases hnear' : d' < depth'
        · rw [paintAt_of_nearer (hj.trans hd') hnear', paintAt_of_nearer (hi.trans hd) hnear,
            paintAt_of_nearer hd hnear, paintAt_of_nearer hd' hnear']
          simp only [Array.setIfInBounds_comm _ _ hij]
        · rw [paintAt_of_farther (hj.trans hd') hnear', paintAt_of_farther hd' hnear']
    · rw [paintAt_of_farther hd hnear, paintAt_of_farther (hi.trans hd) hnear]

/-- **Two fragments of one colour are plotted in either order.** -/
theorem plot_comm (c : Canvas α) {f g : Fragment α} (hcolor : f.color = g.color) :
    (c.plot f).plot g = (c.plot g).plot f := by
  -- what is plotted does not change the measures, so each fragment keeps its place
  have hplace (f g : Fragment α) : index? (c.plot f).picture.height (c.plot f).picture.width g =
      index? c.picture.height c.picture.width g := by
    obtain ⟨hheight, hwidth, -⟩ := c.picture_plot f
    rw [hheight, hwidth]
  cases hf : index? c.picture.height c.picture.width f with
  | none => rw [plot_of_outside hf, plot_of_outside ((hplace g f).trans hf)]
  | some i =>
    cases hg : index? c.picture.height c.picture.width g with
    | none => rw [plot_of_outside ((hplace f g).trans hg), plot_of_outside hg]
    | some j =>
      rw [plot_of_index ((hplace f g).trans hg), plot_of_index ((hplace g f).trans hf),
        plot_of_index hf, plot_of_index hg]
      by_cases hij : i = j
      · rw [hij, hcolor, paintAt_paintAt, paintAt_paintAt, max_comm]
      · exact c.paintAt_comm_of_ne hij ..

/-- **Fragments of one colour leave the same canvas in any order.** -/
theorem plotAll_perm (c : Canvas α) {color : Rgb} {fs gs : List (Fragment α)} (hperm : fs.Perm gs)
    (hcolor : ∀ f ∈ fs, f.color = color) : c.plotAll fs = c.plotAll gs :=
  hperm.foldl_eq' (fun f hf g hg c => c.plot_comm ((hcolor f hf).trans (hcolor g hg).symm)) c

end Canvas

namespace Segment

open Exact

/-- The segment from its other end. -/
def reversed {α : Type} (s : Segment α) : Segment α := ⟨s.stop, s.start⟩

variable (s : Segment ℚ) (color : Rgb)

theorem extent_reversed : s.reversed.extent = s.extent := by
  unfold extent
  rw [abs_sub_comm s.stop.x, abs_sub_comm s.stop.y]
  rfl

theorem stepCount_reversed : s.reversed.stepCount = s.stepCount := by
  rw [stepCount, extent_reversed, stepCount]

theorem fragmentAt_reversed {t : ℕ} (ht : t ≤ s.stepCount) :
    s.reversed.fragmentAt color (s.stepCount - t) = s.fragmentAt color t := by
  have hn := s.stepCount_pos
  unfold fragmentAt
  rw [stepCount_reversed]
  congr 1
  · exact pixelAt_swap _ _ hn ht
  · exact pixelAt_swap _ _ hn ht
  · exact congrArg number (along_swap _ _ hn ht)

/-- **From its other end a segment has the same fragments in the opposite order.** -/
theorem fragments_reversed :
    s.reversed.exact.fragments color = (s.exact.fragments color).reverse := by
  rw [fragments_exact, fragments_exact, stepCount_reversed, ← List.map_reverse]
  refine List.ext_getElem (by simp) fun t ht _ => ?_
  have ht' : t < s.stepCount + 1 := by simpa using ht
  simp only [List.getElem_map, List.getElem_range, List.getElem_reverse, List.length_range]
  rw [← s.fragmentAt_reversed color (by omega)]
  congr 1
  omega

/-- A coordinate on the way lies between the pixels of the ends. -/
theorem pixelAt_between (a b : ℚ) {n t : ℕ} (hn : 0 < n) (ht : t ≤ n) :
    min ⌊a + 1 / 2⌋ ⌊b + 1 / 2⌋ ≤ pixelAt a b n t ∧
      pixelAt a b n t ≤ max ⌊a + 1 / 2⌋ ⌊b + 1 / 2⌋ := by
  have hfirst : pixelAt a b n 0 = ⌊a + 1 / 2⌋ := by rw [pixelAt, along_zero]
  have hlast : pixelAt a b n n = ⌊b + 1 / 2⌋ := by rw [pixelAt, along_last a b hn]
  rw [← hfirst, ← hlast]
  rcases le_total a b with hab | hba
  · exact ⟨min_le_of_left_le (pixelAt_mono hab n (Nat.zero_le t)),
      le_max_of_le_right (pixelAt_mono hab n ht)⟩
  · -- seen from the other end the coordinate grows
    have hstart := pixelAt_mono hba n (Nat.zero_le (n - t))
    have hstop := pixelAt_mono hba n (Nat.sub_le n t)
    have hzero := pixelAt_swap a b hn (Nat.zero_le n)
    have hn' := pixelAt_swap a b hn (le_refl n)
    rw [Nat.sub_zero] at hzero
    rw [Nat.sub_self] at hn'
    rw [pixelAt_swap a b hn ht] at hstart hstop
    rw [hn'] at hstart
    rw [hzero] at hstop
    exact ⟨min_le_of_right_le hstart, le_max_of_le_left hstop⟩

/-- **A segment is drawn alike from either end**, on any canvas.  Its fragments include the pixels
of both ends at their own depths, all of them lie in the rectangle between these pixels, and from
the other end they are the same in the opposite order, in whatever colours the two are drawn: an
edge that two triangles go through in opposite directions covers the same pixels at the same
depths. -/
theorem drawn_from_either_end (canvas : Canvas Exact) :
    Wireframe.drawSegment color canvas s.reversed.exact =
      Wireframe.drawSegment color canvas s.exact ∧
    (∀ p ∈ [s.start, s.stop],
      ⟨⌊p.x + 1 / 2⌋, ⌊p.y + 1 / 2⌋, number p.z, color⟩ ∈ s.exact.fragments color) ∧
    (∀ f ∈ s.exact.fragments color,
      (min ⌊s.start.x + 1 / 2⌋ ⌊s.stop.x + 1 / 2⌋ ≤ f.column ∧
        f.column ≤ max ⌊s.start.x + 1 / 2⌋ ⌊s.stop.x + 1 / 2⌋) ∧
      min ⌊s.start.y + 1 / 2⌋ ⌊s.stop.y + 1 / 2⌋ ≤ f.height ∧
        f.height ≤ max ⌊s.start.y + 1 / 2⌋ ⌊s.stop.y + 1 / 2⌋) ∧
    ∀ color', (s.reversed.exact.fragments color').map (fun f => (f.column, f.height, f.depth)) =
      ((s.exact.fragments color).map fun f => (f.column, f.height, f.depth)).reverse := by
  have hn := s.stepCount_pos
  have hfragments := s.fragments_exact color
  have hmem {f : Fragment Exact} : f ∈ s.exact.fragments color ↔
      ∃ t ≤ s.stepCount, s.fragmentAt color t = f := by
    simp only [hfragments, List.mem_map, List.mem_range, Nat.lt_succ_iff]
  refine ⟨?_, ?_, ?_, fun color' => ?_⟩
  · have hcolor : ∀ f ∈ s.exact.fragments color, f.color = color := by
      intro f hf
      obtain ⟨t, -, rfl⟩ := hmem.1 hf
      rfl
    have hperm : (s.exact.fragments color).Perm (s.reversed.exact.fragments color) := by
      rw [fragments_reversed]
      exact (List.reverse_perm _).symm
    exact (canvas.plotAll_perm hperm hcolor).symm
  · intro p hp
    rw [hmem]
    rcases List.mem_pair.1 hp with rfl | rfl
    · exact ⟨0, Nat.zero_le _, Option.some.inj ((s.fragment?_start color).symm.trans
        (fragment?_number ..))⟩
    · exact ⟨s.stepCount, le_rfl, Option.some.inj ((s.fragment?_stop color).symm.trans
        (fragment?_number ..))⟩
  · intro f hf
    obtain ⟨t, ht, rfl⟩ := hmem.1 hf
    exact ⟨pixelAt_between _ _ hn ht, pixelAt_between _ _ hn ht⟩
  · rw [fragments_reversed, List.map_reverse, fragments_exact, hfragments, List.map_map,
      List.map_map]
    rfl

end Segment

end Flipbook
