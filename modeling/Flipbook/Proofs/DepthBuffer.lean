import Flipbook.Proofs.DepthOrder
import Flipbook.Raster.Rasterizer
import Mathlib.Data.List.Induction

/-!
# What a depth buffer keeps

Fragments reach a canvas in the order in which segments are sampled.  At every pixel they go by one
after the other, and the pixel keeps the nearest of them, the first where several are equally near
(`Canvas.KeepsNearest`, `Canvas.keepsNearest_foldl`).
-/

namespace Flipbook

/-- The fragment belongs to the pixel in column `x` and at height `y` above the bottom. -/
def Fragment.IsAt {α : Type} (f : Fragment α) (x y : Nat) : Prop := f.column = x ∧ f.height = y

instance {α : Type} (f : Fragment α) (x y : Nat) : Decidable (f.IsAt x y) :=
  inferInstanceAs (Decidable (_ ∧ _))

namespace Canvas

variable {α : Type}

/-- The picture and the depths have a place for every pixel. -/
structure Sized (c : Canvas α) : Prop where
  pixels : c.picture.pixels.size = c.picture.height * c.picture.width
  depths : c.depths.size = c.picture.height * c.picture.width

/-- The place of the pixel in column `x` and at height `y` above the bottom. -/
def place (c : Canvas α) (x y : Nat) : Nat :=
  (c.picture.height - 1 - y) * c.picture.width + x

/-- The depth and the colour at a place. -/
def cell? (c : Canvas α) (i : Nat) : Option (α × Rgb) :=
  c.depths[i]?.bind fun d => c.picture.pixels[i]?.map fun color => (d, color)

/-- What a fragment makes of the depth and the colour of its pixel. -/
def paint [LT α] [DecidableLT α] (cell : α × Rgb) (f : Fragment α) : α × Rgb :=
  if cell.1 < f.depth then (f.depth, f.color) else cell

/-! ### Places -/

theorem index?_lt {h w i : Nat} {f : Fragment α} (hi : index? h w f = some i) : i < h * w := by
  unfold index? at hi
  split at hi
  · rename_i hinside
    obtain rfl := Option.some.inj hi
    obtain ⟨hx, hxw, hy, hyh⟩ := hinside
    calc (h - 1 - f.height.toNat) * w + f.column.toNat
        < (h - 1 - f.height.toNat) * w + w := by omega
      _ = (h - 1 - f.height.toNat + 1) * w := by rw [Nat.add_mul, Nat.one_mul]
      _ ≤ h * w := Nat.mul_le_mul_right w (by omega)
  · cases hi

theorem index?_isSome_iff {h w : Nat} (f : Fragment α) :
    (index? h w f).isSome = true ↔ 0 ≤ f.column ∧ f.column < w ∧ 0 ≤ f.height ∧ f.height < h := by
  unfold index?
  split
  · rename_i hinside
    exact iff_of_true rfl hinside
  · rename_i houtside
    exact iff_of_false Bool.false_ne_true houtside

theorem index?_eq_some_iff {h w x y : Nat} (hx : x < w) (hy : y < h) (f : Fragment α) :
    index? h w f = some ((h - 1 - y) * w + x) ↔ f.IsAt x y := by
  constructor
  · intro hi
    unfold index? at hi
    split at hi
    · rename_i hinside
      obtain ⟨hx', hxw, hy', hyh⟩ := hinside
      -- a place determines its column and its row, as the remainder and the quotient by the width
      have hplace := Option.some.inj hi
      have hcolumn := congrArg (· % w) hplace
      have hrow := congrArg (· / w) hplace
      have hw : 0 < w := by omega
      have hfx : f.column.toNat < w := by omega
      simp only [Nat.mul_add_mod_self_right, Nat.mod_eq_of_lt hx, Nat.mod_eq_of_lt hfx] at hcolumn
      simp only [Nat.add_comm _ x, Nat.add_comm _ f.column.toNat, Nat.add_mul_div_right _ _ hw,
        Nat.div_eq_of_lt hx, Nat.div_eq_of_lt hfx] at hrow
      exact ⟨by omega, by omega⟩
    · cases hi
  · rintro ⟨hcolumn, hheight⟩
    unfold index?
    rw [if_pos (by omega), hcolumn, hheight, Int.toNat_natCast, Int.toNat_natCast]

theorem place_lt {c : Canvas α} {x y : Nat} (hx : x < c.picture.width)
    (hy : y < c.picture.height) : c.place x y < c.picture.height * c.picture.width := by
  have hinside : index? c.picture.height c.picture.width (⟨x, y, (), .black⟩ : Fragment Unit) =
      some (c.place x y) := (index?_eq_some_iff hx hy _).2 ⟨rfl, rfl⟩
  exact index?_lt hinside

theorem Sized.exists_cell {c : Canvas α} (hc : c.Sized) {x y : Nat} (hx : x < c.picture.width)
    (hy : y < c.picture.height) :
    ∃ d color, c.cell? (c.place x y) = some (d, color) ∧ d ∈ c.depths := by
  obtain ⟨d, hd⟩ : ∃ d, c.depths[c.place x y]? = some d :=
    ⟨_, Array.getElem?_eq_getElem (by rw [hc.depths]; exact place_lt hx hy)⟩
  obtain ⟨color, hcolor⟩ : ∃ color, c.picture.pixels[c.place x y]? = some color :=
    ⟨_, Array.getElem?_eq_getElem (by rw [hc.pixels]; exact place_lt hx hy)⟩
  exact ⟨d, color, by rw [cell?, hd, hcolor]; rfl, Array.mem_of_getElem? hd⟩

section Painting

variable [LT α] [DecidableLT α] {c : Canvas α}

/-! ### One fragment -/

theorem picture_plot (c : Canvas α) (f : Fragment α) :
    (c.plot f).picture.height = c.picture.height ∧ (c.plot f).picture.width = c.picture.width ∧
      (c.plot f).picture.pixels.size = c.picture.pixels.size ∧
      (c.plot f).depths.size = c.depths.size := by
  unfold plot
  split
  · exact ⟨rfl, rfl, rfl, rfl⟩
  · split
    · exact ⟨rfl, rfl, rfl, rfl⟩
    · split
      · exact ⟨rfl, rfl, Array.size_setIfInBounds, Array.size_setIfInBounds⟩
      · exact ⟨rfl, rfl, rfl, rfl⟩

theorem Sized.plot (hc : c.Sized) (f : Fragment α) : (c.plot f).Sized := by
  obtain ⟨hheight, hwidth, hpixels, hdepths⟩ := c.picture_plot f
  exact ⟨by rw [hpixels, hheight, hwidth, hc.pixels], by rw [hdepths, hheight, hwidth, hc.depths]⟩

theorem Sized.cell?_plot (hc : c.Sized) (f : Fragment α) (i : Nat) :
    (c.plot f).cell? i = if index? c.picture.height c.picture.width f = some i
      then (c.cell? i).map (paint · f) else c.cell? i := by
  unfold Canvas.plot
  cases hj : index? c.picture.height c.picture.width f with
  | none => simp
  | some j =>
    -- the place is inside both buffers, so neither look-up fails
    have hlt := index?_lt hj
    obtain ⟨d, hd⟩ : ∃ d, c.depths[j]? = some d :=
      ⟨_, Array.getElem?_eq_getElem (by rw [hc.depths]; exact hlt)⟩
    obtain ⟨color, hcolor⟩ : ∃ color, c.picture.pixels[j]? = some color :=
      ⟨_, Array.getElem?_eq_getElem (by rw [hc.pixels]; exact hlt)⟩
    simp only [hd, Option.some.injEq]
    by_cases hnear : d < f.depth
    · rw [if_pos hnear]
      by_cases hi : j = i
      · subst hi
        have hd' : (c.depths.setIfInBounds j f.depth)[j]? = some f.depth :=
          Array.getElem?_setIfInBounds_self_of_lt (by rw [hc.depths]; exact hlt)
        have hcolor' : (c.picture.pixels.setIfInBounds j f.color)[j]? = some f.color :=
          Array.getElem?_setIfInBounds_self_of_lt (by rw [hc.pixels]; exact hlt)
        simp only [cell?, hd', hcolor', hd, hcolor, Option.bind_some, Option.map_some, paint,
          if_pos hnear, ↓reduceIte]
      · simp [cell?, hi]
    · rw [if_neg hnear]
      by_cases hi : j = i
      · subst hi
        simp only [cell?, hd, hcolor, Option.bind_some, Option.map_some, paint, if_neg hnear,
          ↓reduceIte]
      · rw [if_neg hi]

/-! ### Fragments one after the other -/

theorem picture_plotAll (c : Canvas α) (fs : List (Fragment α)) :
    (c.plotAll fs).picture.height = c.picture.height ∧
      (c.plotAll fs).picture.width = c.picture.width := by
  induction fs generalizing c with
  | nil => exact ⟨rfl, rfl⟩
  | cons f fs ih =>
    obtain ⟨hheight, hwidth⟩ := ih (c.plot f)
    obtain ⟨hheight', hwidth', -⟩ := c.picture_plot f
    exact ⟨hheight.trans hheight', hwidth.trans hwidth'⟩

theorem Sized.plotAll (hc : c.Sized) (fs : List (Fragment α)) : (c.plotAll fs).Sized := by
  induction fs generalizing c with
  | nil => exact hc
  | cons f fs ih => exact ih (hc.plot f)

theorem plotAll_filter (c : Canvas α) (fs : List (Fragment α)) :
    c.plotAll (fs.filter fun f => (index? c.picture.height c.picture.width f).isSome) =
      c.plotAll fs := by
  induction fs generalizing c with
  | nil => rfl
  | cons f fs ih =>
    obtain ⟨hheight, hwidth, -⟩ := c.picture_plot f
    have := ih (c.plot f)
    rw [hheight, hwidth] at this
    cases hf : index? c.picture.height c.picture.width f with
    | none =>
      have hplot : c.plot f = c := by simp [plot, hf]
      rw [hplot] at this
      rw [List.filter_cons_of_neg (by simp [hf]), this, plotAll, plotAll, List.foldl_cons, hplot]
    | some i =>
      rw [List.filter_cons_of_pos (by simp [hf])]
      exact this

theorem Sized.cell?_plotAll (hc : c.Sized) {x y : Nat} (hx : x < c.picture.width)
    (hy : y < c.picture.height) (fs : List (Fragment α)) :
    (c.plotAll fs).cell? (c.place x y) = (c.cell? (c.place x y)).map fun cell =>
      (fs.filter (·.IsAt x y)).foldl paint cell := by
  induction fs generalizing c with
  | nil => exact (Option.map_id' ..).symm
  | cons f fs ih =>
    obtain ⟨hheight, hwidth, -⟩ := c.picture_plot f
    have hat : index? c.picture.height c.picture.width f = some (c.place x y) ↔ f.IsAt x y :=
      index?_eq_some_iff hx hy f
    have hplace : (c.plot f).place x y = c.place x y := by rw [place, hheight, hwidth, place]
    have := ih (hc.plot f) (hwidth ▸ hx) (hheight ▸ hy)
    rw [hplace, hc.cell?_plot f] at this
    refine this.trans ?_
    by_cases hf : f.IsAt x y
    · rw [if_pos (hat.2 hf), List.filter_cons_of_pos (by simpa using hf), Option.map_map]
      rfl
    · rw [if_neg fun h => hf (hat.1 h), List.filter_cons_of_neg (by simpa using hf)]

end Painting

/-! ### The nearest fragment -/

/-- What fragments have left of a cell whose depth had rank `k₀`: the depth has the greatest rank
`k` that has come by, and unless this is the rank from the start, depth and colour are those of the
first fragment of this rank. -/
structure KeepsNearest {K : Type} [LinearOrder K] (rank? : α → Option K) (cell : α × Rgb) (k₀ : K)
    (fs : List (Fragment α)) (k : K) (out : α × Rgb) : Prop where
  rank : rank? out.1 = some k
  lower : k₀ ≤ k
  upper : ∀ f ∈ fs, ∀ x, rank? f.depth = some x → x ≤ k
  origin : k = k₀ ∧ out = cell ∨ k₀ < k ∧
    ∃ f, fs.find? (fun f => rank? f.depth = some k) = some f ∧ out = (f.depth, f.color)

variable {K : Type} [LinearOrder K] {rank? : α → Option K} {cell : α × Rgb} {k₀ : K}
  {fs : List (Fragment α)} {k : K} {out : α × Rgb}

theorem KeepsNearest.upper_append (h : KeepsNearest rank? cell k₀ fs k out) {f : Fragment α} {b : K}
    (hkb : k ≤ b) (hf : ∀ x, rank? f.depth = some x → x ≤ b) :
    ∀ g ∈ fs ++ [f], ∀ x, rank? g.depth = some x → x ≤ b := by
  intro g hg x hx
  rcases List.mem_append.1 hg with hg | hg
  · exact (h.upper g hg x hx).trans hkb
  · rw [List.mem_singleton.1 hg] at hx
    exact hf x hx

/-- A fragment of a greater rank is the first of its rank. -/
theorem KeepsNearest.nearer (h : KeepsNearest rank? cell k₀ fs k out) {f : Fragment α} {b : K}
    (hb : rank? f.depth = some b) (hlt : k < b) :
    KeepsNearest rank? cell k₀ (fs ++ [f]) b (f.depth, f.color) where
  rank := hb
  lower := h.lower.trans hlt.le
  upper := h.upper_append hlt.le fun x hx => (Option.some.inj (hb.symm.trans hx)).ge
  origin := by
    have hnone : fs.find? (fun g => rank? g.depth = some b) = none := by
      rw [List.find?_eq_none]
      intro g hg hgb
      exact absurd (h.upper g hg b (of_decide_eq_true hgb)) (not_le.2 hlt)
    refine .inr ⟨h.lower.trans_lt hlt, f, ?_, rfl⟩
    rw [List.find?_append, hnone, Option.none_or, List.find?_cons_of_pos (by simp [hb])]

/-- A fragment of no greater rank, or of none, leaves everything as it is. -/
theorem KeepsNearest.farther (h : KeepsNearest rank? cell k₀ fs k out) {f : Fragment α}
    (hf : ∀ x, rank? f.depth = some x → x ≤ k) :
    KeepsNearest rank? cell k₀ (fs ++ [f]) k out where
  rank := h.rank
  lower := h.lower
  upper := h.upper_append le_rfl hf
  origin := by
    refine h.origin.imp_right ?_
    rintro ⟨hlt, g, hg, hout⟩
    exact ⟨hlt, g, by rw [List.find?_append, hg, Option.some_or], hout⟩

/-- **A pixel keeps the first of the nearest** of the fragments that have painted it. -/
theorem keepsNearest_foldl [LT α] [DecidableLT α] (hrank : RankedBy rank?) (cell : α × Rgb)
    (hk₀ : rank? cell.1 = some k₀) (fs : List (Fragment α)) :
    ∃ k, KeepsNearest rank? cell k₀ fs k (fs.foldl paint cell) := by
  induction fs using List.reverseRecOn with
  | nil => exact ⟨k₀, hk₀, le_rfl, by simp, .inl ⟨rfl, rfl⟩⟩
  | append_singleton fs f ih =>
    obtain ⟨k, h⟩ := ih
    rw [List.foldl_append, List.foldl_cons, List.foldl_nil]
    by_cases hnear : (fs.foldl paint cell).1 < f.depth
    · rw [show paint (fs.foldl paint cell) f = (f.depth, f.color) from if_pos hnear]
      obtain ⟨k', b, hk', hb, hlt⟩ := (hrank ..).1 hnear
      obtain rfl : k = k' := Option.some.inj (h.rank.symm.trans hk')
      exact ⟨b, h.nearer hb hlt⟩
    · rw [show paint (fs.foldl paint cell) f = fs.foldl paint cell from if_neg hnear]
      refine ⟨k, h.farther fun x hx => ?_⟩
      exact not_lt.1 fun hlt => hnear ((hrank ..).2 ⟨k, x, h.rank, hx, hlt⟩)

/-- Fragments at which all depths of other fragments occur leave no lesser depth than these. -/
theorem KeepsNearest.le (h : KeepsNearest rank? cell k₀ fs k out) {fs' : List (Fragment α)} {k' : K}
    {out' : α × Rgb} (h' : KeepsNearest rank? cell k₀ fs' k' out')
    (hdepths : ∀ f ∈ fs, ∃ f' ∈ fs', f'.depth = f.depth) : k ≤ k' := by
  rcases h.origin with ⟨rfl, -⟩ | ⟨-, f, hf, -⟩
  · exact h'.lower
  · obtain ⟨f', hf', hdepth⟩ := hdepths f (List.mem_of_find?_eq_some hf)
    have hrankf : rank? f.depth = some k := by simpa using List.find?_some hf
    exact h'.upper f' hf' k (by rw [hdepth, hrankf])

end Canvas

end Flipbook
