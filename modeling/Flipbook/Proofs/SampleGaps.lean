import Flipbook.Proofs.DepthBuffer
import Flipbook.Proofs.ExactSegments
import Mathlib.Data.List.Range

/-!
# Gaps between samples

The number of steps of a segment is the longer of its extents cut to a whole number, so a step may
be longer than a pixel, though not as long as two.  Neighbouring samples then lie at most two
columns and two rows apart, and all steps of a segment together make up for what was cut off, which
is less than one pixel: along each axis at most one step leaves out a pixel, and one does where the
pixels of the ends are more than that number of steps apart (`Segment.exists_skip_iff`).  Only where
this is so along neither axis the samples make up an unbroken path (`Segment.gaps_of_samples`).
-/

namespace Flipbook

/-- The pixels of two fragments are the same or touch each other at a side or a corner. -/
def Fragment.Adjoins {α : Type} (f g : Fragment α) : Prop :=
  |g.column - f.column| ≤ 1 ∧ |g.height - f.height| ≤ 1

namespace Segment

/-- The step after `t` leaves out a pixel. -/
def Skips (p : ℕ → ℤ) (t : ℕ) : Prop := 1 < |p (t + 1) - p t|

/-! ### One step -/

theorem abs_floor_sub_floor_lt (x y : ℚ) : (|⌊y⌋ - ⌊x⌋| : ℤ) < |y - x| + 1 := by
  have hx := Int.floor_le x
  have hx' := Int.lt_floor_add_one x
  have hy := Int.floor_le y
  have hy' := Int.lt_floor_add_one y
  have hle := le_abs_self (y - x)
  have hge := neg_abs_le (y - x)
  push_cast
  rw [abs_lt]
  constructor <;> linarith

variable {a b : ℚ} {n t : ℕ}

theorem abs_along_succ_sub (a b : ℚ) (n t : ℕ) :
    |along a b n (t + 1) + 1 / 2 - (along a b n t + 1 / 2)| = |b - a| / n := by
  rw [along_succ, ← Nat.abs_cast n, ← abs_div, Nat.abs_cast]
  congr 1
  ring

theorem abs_pixelAt_succ_sub_le (hn : 0 < n) {k : ℤ} (h : |b - a| ≤ k * n) (t : ℕ) :
    |pixelAt a b n (t + 1) - pixelAt a b n t| ≤ k := by
  have hn' : (0 : ℚ) < n := by exact_mod_cast hn
  have hstep : |b - a| / n ≤ k := (div_le_iff₀ hn').2 h
  have hlt := abs_floor_sub_floor_lt (along a b n t + 1 / 2) (along a b n (t + 1) + 1 / 2)
  rw [abs_along_succ_sub] at hlt
  have hlt' : |pixelAt a b n (t + 1) - pixelAt a b n t| < k + 1 := by
    exact_mod_cast lt_of_lt_of_le hlt (by linarith : |b - a| / n + 1 ≤ (k : ℚ) + 1)
  omega

theorem pixelAt_add_one_le (hn : 0 < n) (h : n ≤ b - a) (t : ℕ) :
    pixelAt a b n t + 1 ≤ pixelAt a b n (t + 1) := by
  have hn' : (0 : ℚ) < n := by exact_mod_cast hn
  have hstep : 1 ≤ (b - a) / n := (le_div_iff₀ hn').2 (by linarith)
  unfold pixelAt
  rw [← Int.floor_add_one, along_succ]
  exact Int.floor_mono (by linarith)

theorem abs_pixelAt_last_sub_lt (a b : ℚ) (hn : 0 < n) :
    (|pixelAt a b n n - pixelAt a b n 0| : ℤ) < |b - a| + 1 := by
  have hlt := abs_floor_sub_floor_lt (a + 1 / 2) (b + 1 / 2)
  rw [pixelAt, pixelAt, along_last a b hn, along_zero]
  rwa [add_sub_add_right_eq_sub] at hlt

/-! ### All steps of a segment -/

/-- Where every step leads on, many steps lead far. -/
theorem add_le_of_climb {p : ℕ → ℤ} (hclimb : ∀ t, p t + 1 ≤ p (t + 1)) (i k : ℕ) :
    p i + k ≤ p (i + k) := by
  induction k with
  | zero => simp
  | succ k ih =>
    have := hclimb (i + k)
    rw [← add_assoc]
    push_cast
    omega

theorem add_two_le_of_skip {p : ℕ → ℤ} (hclimb : ∀ t, p t + 1 ≤ p (t + 1)) (h : Skips p t) :
    p t + 2 ≤ p (t + 1) := by
  have := hclimb t
  unfold Skips at h
  rw [abs_of_nonneg (by omega)] at h
  omega

theorem lt_abs_of_skip (hn : 0 < n) (h : Skips (pixelAt a b n) t) : (n : ℚ) < |b - a| := by
  by_contra hshort
  have := abs_pixelAt_succ_sub_le hn (k := 1) (by push_cast; linarith) t
  exact absurd h (by unfold Skips; omega)

/-- Forwards, the pixels before and after a step that leaves one out are too far apart for a
second such step. -/
theorem climb_of_skip (hn : 0 < n) (hab : a ≤ b) (h : Skips (pixelAt a b n) t) :
    ∀ t, pixelAt a b n t + 1 ≤ pixelAt a b n (t + 1) := by
  have hlong := lt_abs_of_skip hn h
  rw [abs_of_nonneg (by linarith)] at hlong
  exact pixelAt_add_one_le hn hlong.le

theorem skips_swap (hn : 0 < n) (ht : t < n) :
    Skips (pixelAt b a n) (n - 1 - t) ↔ Skips (pixelAt a b n) t := by
  have hfrom : pixelAt b a n (n - 1 - t) = pixelAt a b n (t + 1) := by
    rw [← pixelAt_swap a b hn (by omega : t + 1 ≤ n)]
    congr 1
    omega
  have hto : pixelAt b a n (n - 1 - t + 1) = pixelAt a b n t := by
    rw [← pixelAt_swap a b hn ht.le]
    congr 1
    omega
  unfold Skips
  rw [hfrom, hto, abs_sub_comm]

theorem lt_of_skip (hn : 0 < n) (hab : a ≤ b) (ht : t < n) (h : Skips (pixelAt a b n) t) :
    pixelAt a b n 0 + n < pixelAt a b n n := by
  have hclimb := climb_of_skip hn hab h
  have hbefore := add_le_of_climb hclimb 0 t
  have hskip := add_two_le_of_skip hclimb h
  have hafter := add_le_of_climb hclimb (t + 1) (n - (t + 1))
  rw [Nat.zero_add] at hbefore
  rw [Nat.add_sub_cancel' ht] at hafter
  push_cast [Nat.cast_sub ht] at hafter
  omega

/-- Forwards, of two steps that leave out a pixel the one is not before the other. -/
theorem not_lt_of_skips (hn : 0 < n) (hab : a ≤ b) (hlong : b - a < n + 1) {t' : ℕ} (ht' : t' < n)
    (h : Skips (pixelAt a b n) t) (h' : Skips (pixelAt a b n) t') : ¬ t < t' := by
  intro hlt
  have hclimb := climb_of_skip hn hab h
  have hbefore := add_le_of_climb hclimb 0 t
  have hskip := add_two_le_of_skip hclimb h
  have hbetween := add_le_of_climb hclimb (t + 1) (t' - (t + 1))
  have hskip' := add_two_le_of_skip hclimb h'
  have hafter := add_le_of_climb hclimb (t' + 1) (n - (t' + 1))
  rw [Nat.zero_add] at hbefore
  rw [Nat.add_sub_cancel' hlt] at hbetween
  rw [Nat.add_sub_cancel' ht'] at hafter
  push_cast [Nat.cast_sub hlt, Nat.cast_sub ht'] at hbetween hafter
  have hends : |pixelAt a b n n - pixelAt a b n 0| < (n : ℤ) + 2 := by
    have hends := abs_pixelAt_last_sub_lt a b hn
    rw [abs_of_nonneg (by linarith : 0 ≤ b - a)] at hends
    exact_mod_cast (by linarith : ((|pixelAt a b n n - pixelAt a b n 0| : ℤ) : ℚ) < n + 2)
  rw [abs_lt] at hends
  omega

/-- **Along an axis at most one step leaves out a pixel.** -/
theorem skip_unique (hn : 0 < n) (hlong : |b - a| < n + 1) {t' : ℕ} (ht : t < n) (ht' : t' < n)
    (h : Skips (pixelAt a b n) t) (h' : Skips (pixelAt a b n) t') : t = t' := by
  rcases le_total a b with hab | hba
  · rw [abs_of_nonneg (by linarith)] at hlong
    have := not_lt_of_skips hn hab hlong ht' h h'
    have := not_lt_of_skips hn hab hlong ht h' h
    omega
  · -- seen from the other end the way leads forwards
    rw [abs_of_nonpos (by linarith), neg_sub] at hlong
    have := not_lt_of_skips hn hba hlong (by omega) ((skips_swap hn ht).2 h)
      ((skips_swap hn ht').2 h')
    have := not_lt_of_skips hn hba hlong (by omega) ((skips_swap hn ht').2 h')
      ((skips_swap hn ht).2 h)
    omega

theorem abs_sub_le_of_no_skip {p : ℕ → ℤ} {n : ℕ} (h : ∀ t < n, ¬ Skips p t) :
    |p n - p 0| ≤ n := by
  induction n with
  | zero => simp
  | succ n ih =>
    have hstep := h n (Nat.lt_succ_self n)
    have hrest := ih fun t ht => h t (Nat.lt_succ_of_lt ht)
    unfold Skips at hstep
    rw [not_lt, abs_le] at hstep
    rw [abs_le] at hrest ⊢
    push_cast
    omega

/-- **A pixel is left out along an axis where those of the ends are farther apart than there are
steps.** -/
theorem exists_skip_iff (hn : 0 < n) :
    (∃ t < n, Skips (pixelAt a b n) t) ↔ n < |pixelAt a b n n - pixelAt a b n 0| := by
  constructor
  · rintro ⟨t, ht, h⟩
    rcases le_total a b with hab | hba
    · have := lt_of_skip hn hab ht h
      rw [lt_abs]
      omega
    · have := lt_of_skip hn hba (by omega) ((skips_swap hn ht).2 h)
      have hfirst := pixelAt_swap a b hn (Nat.zero_le n)
      have hlast := pixelAt_swap a b hn (le_refl n)
      rw [Nat.sub_zero] at hfirst
      rw [Nat.sub_self] at hlast
      rw [hfirst, hlast] at this
      rw [lt_abs]
      omega
  · intro hfar
    by_contra hnone
    exact absurd (abs_sub_le_of_no_skip fun t ht h => hnone ⟨t, ht, h⟩) (not_le.2 hfar)

/-! ### The path of a segment -/

variable (s : Segment ℚ) (color : Rgb)

theorem abs_width_le : |s.stop.x - s.start.x| ≤ s.extent := le_max_left ..

theorem abs_height_le : |s.stop.y - s.start.y| ≤ s.extent := le_max_right ..

theorem extent_le_of_whole (h : s.extent < 1 ∨ ∃ k : ℤ, s.extent = k) :
    s.extent ≤ s.stepCount := by
  have hone : (1 : ℚ) ≤ s.stepCount := by exact_mod_cast s.stepCount_pos
  rcases h with h | ⟨k, hk⟩
  · linarith
  · have hle : k ≤ s.stepCount := by
      have := Int.self_le_toNat ⌊s.extent⌋
      have : ⌊s.extent⌋.toNat ≤ s.stepCount := Nat.le_max_left ..
      rw [hk, Int.floor_intCast] at *
      omega
    rw [hk]
    exact_mod_cast hle

theorem isChain_iff_no_skip : (s.exact.fragments color).IsChain Fragment.Adjoins ↔
    (¬ ∃ t < s.stepCount, Skips (pixelAt s.start.x s.stop.x s.stepCount) t) ∧
      ¬ ∃ t < s.stepCount, Skips (pixelAt s.start.y s.stop.y s.stepCount) t := by
  rw [fragments_exact, List.isChain_map, List.isChain_range_succ]
  simp only [not_exists, not_and, ← forall_and, Skips, not_lt]
  rfl

/-- **The samples make up a path unless the pixels of the ends are farther apart than there are
steps.** -/
theorem isChain_iff : (s.exact.fragments color).IsChain Fragment.Adjoins ↔
    |(s.fragmentAt color s.stepCount).column - (s.fragmentAt color 0).column| ≤ s.stepCount ∧
      |(s.fragmentAt color s.stepCount).height - (s.fragmentAt color 0).height| ≤ s.stepCount := by
  rw [isChain_iff_no_skip, exists_skip_iff s.stepCount_pos, exists_skip_iff s.stepCount_pos,
    not_lt, not_lt]
  rfl

theorem isChain_of_extent_le (h : s.extent ≤ s.stepCount) :
    (s.exact.fragments color).IsChain Fragment.Adjoins := by
  rw [isChain_iff_no_skip]
  constructor
  · rintro ⟨t, -, hskip⟩
    have := lt_abs_of_skip s.stepCount_pos hskip
    linarith [s.abs_width_le]
  · rintro ⟨t, -, hskip⟩
    have := lt_abs_of_skip s.stepCount_pos hskip
    linarith [s.abs_height_le]

end Segment

/-! ### The path on a canvas -/

namespace Canvas

variable {α : Type}

theorem depth_of_cell? {c : Canvas α} {i : Nat} {d : α} {k : Rgb} (h : c.cell? i = some (d, k)) :
    c.depths[i]? = some d := by
  obtain ⟨d', hd', hcell⟩ := Option.bind_eq_some_iff.1 h
  obtain ⟨k', -, hpair⟩ := Option.map_eq_some_iff.1 hcell
  rw [hd', (Prod.mk.inj hpair).1]

variable [LinearOrder α]

/-- The fragment lies on the screen, nearer than what is there. -/
def Accepts (c : Canvas α) (f : Fragment α) : Prop :=
  ∃ x < c.picture.width, ∃ y < c.picture.height, f.IsAt x y ∧
    ∃ d, c.depths[c.place x y]? = some d ∧ d < f.depth

theorem rankedBy_some : RankedBy (some : α → Option α) := by
  intro a b
  simp only [Option.some.injEq, exists_and_left, exists_eq_left']

/-- Fragments of one colour that are all accepted show at their pixels and nowhere else. -/
theorem Sized.cell?_plotAll_of_accepted {c : Canvas α} (hc : c.Sized) {color : Rgb}
    {fs : List (Fragment α)} (hcolor : ∀ f ∈ fs, f.color = color) (haccepts : ∀ f ∈ fs, c.Accepts f)
    {x y : Nat} (hx : x < c.picture.width) (hy : y < c.picture.height) :
    ∃ d k d' k', c.cell? (c.place x y) = some (d, k) ∧
      (c.plotAll fs).cell? (c.place x y) = some (d', k') ∧
      ((∃ f ∈ fs, f.IsAt x y) → d < d' ∧ k' = color) ∧
      ((¬ ∃ f ∈ fs, f.IsAt x y) → d' = d ∧ k' = k) := by
  obtain ⟨d, k, hcell, -⟩ := hc.exists_cell hx hy
  have hout := hc.cell?_plotAll hx hy fs
  rw [hcell, Option.map_some] at hout
  obtain ⟨top, hnearest⟩ := keepsNearest_foldl rankedBy_some (d, k) rfl (fs.filter (·.IsAt x y))
  refine ⟨d, k, _, _, hcell, hout, ?_, ?_⟩
  · rintro ⟨f, hf, hat⟩
    obtain ⟨x', -, y', -, hat', d₀, hd₀, hlt⟩ := haccepts f hf
    obtain rfl : x' = x := by
      have := hat.1.symm.trans hat'.1
      omega
    obtain rfl : y' = y := by
      have := hat.2.symm.trans hat'.2
      omega
    obtain rfl : d = d₀ := Option.some.inj ((depth_of_cell? hcell).symm.trans hd₀)
    have hpainted : f.depth ≤ top :=
      hnearest.upper f (List.mem_filter.2 ⟨hf, decide_eq_true hat⟩) _ rfl
    rcases hnearest.origin with ⟨htop, -⟩ | ⟨hnearer, g, hg, hlast⟩
    · exact absurd hlt (not_lt.2 (hpainted.trans_eq htop))
    · have hrank : g.depth = top := by simpa using List.find?_some hg
      rw [hlast]
      refine ⟨hrank ▸ hnearer, hcolor g ?_⟩
      exact List.mem_of_mem_filter (List.mem_of_find?_eq_some hg)
  · intro hnone
    have hempty : fs.filter (·.IsAt x y) = [] := by
      rw [List.filter_eq_nil_iff]
      intro f hf hat
      exact hnone ⟨f, hf, of_decide_eq_true hat⟩
    rw [hempty]
    exact ⟨rfl, rfl⟩

end Canvas

namespace Segment

open Exact

/-- **Neighbouring samples lie at most two pixels apart along either axis, and more than one apart
at most once along each**; the samples make up a path from the pixel of the one end to that of the
other unless these are farther apart than there are steps, and always where the extent of the
segment is of whole units or of less than one.  A segment that is accepted everywhere shows at the
pixels of its samples and nowhere else. -/
theorem gaps_of_samples (s : Segment ℚ) (color : Rgb) :
    let n := s.exact.steps
    let sample := s.fragmentAt color
    let fs := s.exact.fragments color
    fs = (List.range (n + 1)).map sample ∧
    fragment? color s.exact.start = some (sample 0) ∧
    fragment? color s.exact.stop = some (sample n) ∧
    (∀ t < n, |(sample (t + 1)).column - (sample t).column| ≤ 2 ∧
      |(sample (t + 1)).height - (sample t).height| ≤ 2) ∧
    (∀ t < n, ∀ t' < n, 1 < |(sample (t + 1)).column - (sample t).column| →
      1 < |(sample (t' + 1)).column - (sample t').column| → t = t') ∧
    (∀ t < n, ∀ t' < n, 1 < |(sample (t + 1)).height - (sample t).height| →
      1 < |(sample (t' + 1)).height - (sample t').height| → t = t') ∧
    (fs.IsChain Fragment.Adjoins ↔ |(sample n).column - (sample 0).column| ≤ n ∧
      |(sample n).height - (sample 0).height| ≤ n) ∧
    ((s.extent < 1 ∨ ∃ k : ℤ, s.extent = k) → fs.IsChain Fragment.Adjoins) ∧
    ∀ canvas : Canvas Exact, canvas.Sized → (∀ f ∈ fs, canvas.Accepts f) →
      ∀ x < canvas.picture.width, ∀ y < canvas.picture.height,
        ∃ d k d' k', canvas.cell? (canvas.place x y) = some (d, k) ∧
          (Wireframe.drawSegment color canvas s.exact).cell? (canvas.place x y) = some (d', k') ∧
          ((∃ f ∈ fs, f.IsAt x y) → d < d' ∧ k' = color) ∧
          ((¬ ∃ f ∈ fs, f.IsAt x y) → d' = d ∧ k' = k) := by
  rw [steps_exact]
  intro n sample fs
  have hn : 0 < n := s.stepCount_pos
  have hone : (1 : ℚ) ≤ n := by exact_mod_cast hn
  have hfs : fs = (List.range (n + 1)).map sample := s.fragments_exact color
  have hwidth : |s.stop.x - s.start.x| < n + 1 := s.abs_width_le.trans_lt s.extent_lt
  have hheight : |s.stop.y - s.start.y| < n + 1 := s.abs_height_le.trans_lt s.extent_lt
  refine ⟨hfs, s.fragment?_start color, s.fragment?_stop color, fun t _ => ⟨?_, ?_⟩, ?_, ?_,
    s.isChain_iff color, fun h => s.isChain_of_extent_le color (s.extent_le_of_whole h), ?_⟩
  · exact abs_pixelAt_succ_sub_le hn (by push_cast; linarith) t
  · exact abs_pixelAt_succ_sub_le hn (by push_cast; linarith) t
  · exact fun t ht t' ht' h h' => skip_unique hn hwidth ht ht' h h'
  · exact fun t ht t' ht' h h' => skip_unique hn hheight ht ht' h h'
  · intro canvas hsized haccepts x hx y hy
    refine hsized.cell?_plotAll_of_accepted (fun f hf => ?_) haccepts hx hy
    rw [hfs] at hf
    obtain ⟨t, -, rfl⟩ := List.mem_map.1 hf
    rfl

/-- From a quarter of a pixel to the second next pixel there is one step, and it leaves out the
pixel between. -/
theorem sample_leaves_pixel_out :
    let s : Segment ℚ := ⟨⟨1 / 4, 0, 0⟩, ⟨2, 0, 0⟩⟩
    let red : Rgb := ⟨255, 0, 0⟩
    let drawn := (Wireframe.drawSegment red (.blank 3) s.exact).picture
    s.exact.steps = 1 ∧
    s.exact.fragments red = [⟨0, 0, number 0, red⟩, ⟨2, 0, number 0, red⟩] ∧
    ¬ (s.exact.fragments red).IsChain Fragment.Adjoins ∧
    drawn.at? 2 0 = some red ∧ drawn.at? 2 1 = some .black ∧ drawn.at? 2 2 = some red := by
  intro s red drawn
  have hfragments : s.exact.fragments red = [⟨0, 0, number 0, red⟩, ⟨2, 0, number 0, red⟩] := by
    decide +kernel
  refine ⟨by decide +kernel, hfragments, ?_, by decide +kernel, by decide +kernel,
    by decide +kernel⟩
  rw [hfragments, List.isChain_pair]
  exact fun h => absurd h.1 (by decide)

end Segment

end Flipbook
