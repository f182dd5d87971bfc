import Flipbook.Proofs.DepthBuffer
import Flipbook.Proofs.Performance

/-!
# The measures of a canvas

A canvas that has been drawn on is as high and as wide as before and has as many depths, so
clearing it makes it blank again (`Canvas.Fits.clear`).  Rasterizers that draw inside the canvas
keep its measures, wire frames among them (`Rasterizer.keepsMeasures_wireframe`), and so does
everything that a performance draws (`Performance.canvasBefore_measures`).
-/

namespace Flipbook

namespace Canvas

variable {α : Type}

/-- The canvases have the same height, width and number of depths. -/
structure SameMeasures (c c' : Canvas α) : Prop where
  height : c'.picture.height = c.picture.height
  width : c'.picture.width = c.picture.width
  depths : c'.depths.size = c.depths.size

/-- The canvas is a square of the given size, with a depth for every pixel. -/
structure Fits (size : Nat) (c : Canvas α) : Prop where
  height : c.picture.height = size
  width : c.picture.width = size
  depths : c.depths.size = size * size

variable {c c' c'' : Canvas α} {size : Nat}

theorem SameMeasures.refl (c : Canvas α) : c.SameMeasures c := ⟨rfl, rfl, rfl⟩

theorem SameMeasures.trans (h : c.SameMeasures c') (h' : c'.SameMeasures c'') :
    c.SameMeasures c'' :=
  ⟨h'.height.trans h.height, h'.width.trans h.width, h'.depths.trans h.depths⟩

theorem Fits.of_same (h : c.Fits size) (hc : c.SameMeasures c') : c'.Fits size :=
  ⟨hc.height.trans h.height, hc.width.trans h.width, hc.depths.trans h.depths⟩

theorem fits_blank [Farthest α] (size : Nat) : (blank size : Canvas α).Fits size :=
  ⟨rfl, rfl, by simp [blank]⟩

/-- **A canvas that is cleared is as good as new.** -/
theorem Fits.clear [Farthest α] (h : c.Fits size) : c.clear = blank size := by
  have hpicture : (c.clearPicture .black).picture = .solid size size .black := by
    rw [clearPicture, h.height, h.width]
  simp only [Canvas.clear, clearDepths, hpicture, blank]
  rw [clearPicture, h.depths]

theorem sameMeasures_foldl {β : Type} {step : Canvas α → β → Canvas α}
    (h : ∀ (c : Canvas α) b, c.SameMeasures (step c b)) (bs : List β) (c : Canvas α) :
    c.SameMeasures (bs.foldl step c) := by
  induction bs generalizing c with
  | nil => exact .refl c
  | cons b bs ih => exact (h c b).trans (ih (step c b))

theorem sameMeasures_plot [LT α] [DecidableLT α] (c : Canvas α) (f : Fragment α) :
    c.SameMeasures (c.plot f) := by
  obtain ⟨hheight, hwidth, -, hdepths⟩ := c.picture_plot f
  exact ⟨hheight, hwidth, hdepths⟩

end Canvas

/-- The rasterizer draws inside the canvas, whose measures it does not change. -/
structure Rasterizer.KeepsMeasures {α : Type} (r : Rasterizer α) : Prop where
  drawSolid : ∀ scene points constants (c : Canvas α),
    c.SameMeasures (r.drawSolid scene points constants c).state
  drawLine : ∀ scene points (c : Canvas α), c.SameMeasures (r.drawLine scene points c).state

namespace Rasterizer

variable {α : Type}

theorem keepsMeasures_silent : (silent : Rasterizer α).KeepsMeasures :=
  ⟨fun _ _ _ c => .refl c, fun _ _ c => .refl c⟩

theorem sameMeasures_ofExcept {c : Canvas α} {x : Except Fault (Canvas α)}
    (h : ∀ c', x = .ok c' → c.SameMeasures c') :
    c.SameMeasures (Outcome.ofExcept c x).state := by
  cases x with
  | error f => exact .refl c
  | ok c' => exact h c' rfl

section Wireframe

variable [Zero α] [Add α] [Sub α] [Mul α] [Div α] [Neg α] [NatCast α] [LT α] [DecidableLT α]
  [Floor α]

theorem sameMeasures_drawSegments (color : Rgb) (ss : List (Segment α)) (c : Canvas α) :
    c.SameMeasures (Wireframe.drawSegments color c ss) := by
  have segment (c : Canvas α) (s : Segment α) :
      c.SameMeasures (Wireframe.drawSegment color c s) :=
    Canvas.sameMeasures_foldl Canvas.sameMeasures_plot (s.fragments color) c
  exact Canvas.sameMeasures_foldl segment ss c

theorem keepsMeasures_wireframe [OfInteger α] : (wireframe : Rasterizer α).KeepsMeasures where
  drawSolid scene points constants c := by
    refine sameMeasures_ofExcept fun c' hc' => ?_
    unfold Wireframe.drawSolid at hc'
    split at hc'
    · cases hc'
      exact .refl c
    · cases htint : Wireframe.tint constants with
      | error => rw [htint] at hc'; cases hc'
      | ok color =>
        rw [htint] at hc'
        cases hc'
        exact sameMeasures_drawSegments ..
  drawLine scene points c := by
    refine sameMeasures_ofExcept fun c' hc' => ?_
    unfold Wireframe.drawLine at hc'
    split at hc'
    · cases hc'
      exact .refl c
    · cases hcolor : Rgb.ofChannels scene.lineColor with
      | error => rw [hcolor] at hc'; cases hc'
      | ok color =>
        rw [hcolor] at hc'
        cases hc'
        exact sameMeasures_drawSegments ..

end Wireframe

end Rasterizer

namespace Performance

variable {α σ : Type} {p : Performance α σ}

theorem sameMeasures_draw (hp : p.interpreter.rasterizer.KeepsMeasures) (e : Event α)
    (c : Canvas α) : c.SameMeasures (p.interpreter.draw e c).state := by
  cases e with
  | solid => exact hp.drawSolid ..
  | line => exact hp.drawLine ..
  | _ => exact .refl c

variable [Zero α] [One α] [Add α] [Mul α] [Neg α] [Div α] [NatCast α] [Circular α]

theorem canvasBefore_measures (hp : p.interpreter.rasterizer.KeepsMeasures) (k : Nat) :
    p.canvas.SameMeasures (p.canvasBefore k) :=
  Canvas.sameMeasures_foldl (fun c e => sameMeasures_draw hp e c) _ _

end Performance

end Flipbook
