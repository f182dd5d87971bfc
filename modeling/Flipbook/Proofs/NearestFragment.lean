import Flipbook.Proofs.DepthBuffer

/-!
# The nearest fragment wins

A call of the rasterizer draws segments in colours, and a segment is drawn as the fragments of its
samples.  Any number of calls therefore draws one list of fragments (`DrawCall.performAll_eq`), in
the order of the calls, of their segments and of the samples, and a pixel keeps the first of the
nearest of those that fall on it (`DrawCall.nearest_fragment_wins`).
-/

namespace Flipbook

/-! ### The samples of a segment -/

theorem Numeric.Binary64.toWord_lt (r : Binary64) : r.toWord < wordBound := by
  have hpos : 0 < wordBound := by decide
  unfold toWord
  split
  · split <;> omega
  · omega

/-- **The steps of a segment fit into a machine word**, however long it is. -/
theorem Segment.steps_lt (s : Segment Float) : s.steps < Numeric.Binary64.wordBound := by
  have hone : 1 < Numeric.Binary64.wordBound := by decide
  have hword := Numeric.Binary64.toWord_lt
    (.read (larger (magnitude (s.stop - s.start).x) (magnitude (s.stop - s.start).y)))
  unfold steps
  change max (Numeric.Binary64.toWord _).toNat 1 < Numeric.Binary64.wordBound
  omega

example : (⟨⟨0, 0, 0⟩, ⟨1e19, 0, 0⟩⟩ : Segment Float).steps = 1 := by decide +kernel

/-! ### Calls and their fragments -/

/-- A call of the rasterizer. -/
inductive DrawCall (α : Type)
  /-- Triangles of a material are drawn, three points each. -/
  | solid (scene : Scene α) (points : Array (Vec4 α)) (constants : Constants α)
  /-- Lines are drawn, two points each. -/
  | line (scene : Scene α) (points : Array (Vec4 α))

namespace DrawCall

open Canvas Rasterizer

section Fragments

variable {α : Type} [Zero α] [Add α] [Sub α] [Mul α] [Div α] [Neg α] [NatCast α] [LT α]
  [DecidableLT α] [Floor α] [OfInteger α]

/-- What a call makes of a canvas; one that stops leaves it as it is. -/
def perform (canvas : Canvas α) : DrawCall α → Canvas α
  | solid scene points constants => (wireframe.drawSolid scene points constants canvas).state
  | line scene points => (wireframe.drawLine scene points canvas).state

/-- What calls make of a canvas one after the other. -/
def performAll (canvas : Canvas α) (calls : List (DrawCall α)) : Canvas α :=
  calls.foldl perform canvas

/-- The segments of a call with their colours: lines as they are, and the sides of those triangles
that face the viewer. -/
def segments : DrawCall α → List (Segment α × Rgb)
  | solid scene points constants =>
    match Wireframe.tint constants with
    | .error _ => []
    | .ok color =>
      (((Triangle.ofCorners (positions points)).filter (·.facing scene.view)).flatMap
        Triangle.sides).map (·, color)
  | line scene points =>
    match Rgb.ofChannels scene.lineColor with
    | .error _ => []
    | .ok color => (Segment.ofEnds (positions points)).map (·, color)

/-- The fragments of a call, segment by segment and sample by sample. -/
def fragments (call : DrawCall α) : List (Fragment α) :=
  call.segments.flatMap fun s => s.1.fragments s.2

omit [OfInteger α] in
theorem drawSegments_eq (color : Rgb) (canvas : Canvas α) (ss : List (Segment α)) :
    Wireframe.drawSegments color canvas ss =
      canvas.plotAll ((ss.map (·, color)).flatMap fun s => s.1.fragments s.2) := by
  unfold Wireframe.drawSegments plotAll
  rw [List.flatMap_map, List.foldl_flatMap]
  rfl

theorem perform_eq (canvas : Canvas α) (call : DrawCall α) :
    call.perform canvas = canvas.plotAll call.fragments := by
  cases call with
  | solid scene points constants =>
    simp only [perform, wireframe, Wireframe.drawSolid, fragments, segments]
    cases hfacing : (Triangle.ofCorners (positions points)).filter (·.facing scene.view) with
    | nil =>
      -- without a triangle the material is not looked at
      cases Wireframe.tint constants <;> rfl
    | cons t ts =>
      cases htint : Wireframe.tint constants with
      | error e => rfl
      | ok color => exact drawSegments_eq color canvas _
  | line scene points =>
    simp only [perform, wireframe, Wireframe.drawLine, fragments, segments]
    cases positions points with
    | nil => cases Rgb.ofChannels scene.lineColor <;> rfl
    | cons p ps =>
      cases Rgb.ofChannels scene.lineColor with
      | error e => rfl
      | ok color => exact drawSegments_eq color canvas _

/-- **Calls plot their fragments one after the other.** -/
theorem performAll_eq (canvas : Canvas α) (calls : List (DrawCall α)) :
    performAll canvas calls = canvas.plotAll (calls.flatMap fragments) := by
  unfold performAll plotAll
  rw [List.foldl_flatMap]
  congr 1
  funext canvas call
  exact perform_eq canvas call

omit [OfInteger α] in
theorem fragments_recolor (s : Segment α) (color color' : Rgb) :
    s.fragments color' = (s.fragments color).map fun f => { f with color := color' } := by
  unfold Segment.fragments
  rw [List.map_filterMap]
  congr 1
  funext t
  unfold Segment.fragment?
  cases Segment.pixel? (s.sample s.steps t).x with
  | none => rfl
  | some x => cases Segment.pixel? (s.sample s.steps t).y <;> rfl

theorem exists_fragment_of_segments {calls calls' : List (DrawCall α)}
    (hsegments : ∀ s ∈ (calls.flatMap segments).map Prod.fst,
      s ∈ (calls'.flatMap segments).map Prod.fst)
    {f : Fragment α} (hf : f ∈ calls.flatMap fragments) :
    ∃ f' ∈ calls'.flatMap fragments,
      f'.column = f.column ∧ f'.height = f.height ∧ f'.depth = f.depth := by
  have hflat (calls : List (DrawCall α)) : calls.flatMap fragments =
      (calls.flatMap segments).flatMap fun s => s.1.fragments s.2 := by
    rw [List.flatMap_assoc]
    rfl
  rw [hflat] at hf ⊢
  obtain ⟨⟨s, color⟩, hs, hfs⟩ := List.mem_flatMap.1 hf
  obtain ⟨⟨_, color'⟩, hs', rfl⟩ := List.mem_map.1 (hsegments s (List.mem_map_of_mem hs))
  refine ⟨{ f with color := color' }, List.mem_flatMap.2 ⟨_, hs', ?_⟩, rfl, rfl, rfl⟩
  rw [fragments_recolor _ color]
  exact List.mem_map_of_mem hfs

/-- Calls that draw the same segments have fragments of the same depths at every pixel. -/
theorem exists_depth_of_segments {calls calls' : List (DrawCall α)}
    (hsegments : ∀ s ∈ (calls.flatMap segments).map Prod.fst,
      s ∈ (calls'.flatMap segments).map Prod.fst) {x y : Nat} :
    ∀ f ∈ (calls.flatMap fragments).filter (·.IsAt x y),
      ∃ f' ∈ (calls'.flatMap fragments).filter (·.IsAt x y), f'.depth = f.depth := by
  intro f hf
  obtain ⟨hf, hat⟩ := List.mem_filter.1 hf
  obtain ⟨f', hf', hcolumn, hheight, hdepth⟩ := exists_fragment_of_segments hsegments hf
  have hat' : f'.IsAt x y := by
    unfold Fragment.IsAt
    rw [hcolumn, hheight]
    exact of_decide_eq_true hat
  exact ⟨f', List.mem_filter.2 ⟨hf', decide_eq_true hat'⟩, hdepth⟩

end Fragments

/-! ### Floats -/

variable {canvas : Canvas Float} {x y : Nat}

theorem cell?_performAll (hsized : canvas.Sized) (hx : x < canvas.picture.width)
    (hy : y < canvas.picture.height) {cell : Float × Rgb}
    (hcell : canvas.cell? (canvas.place x y) = some cell) (calls : List (DrawCall Float)) :
    (performAll canvas calls).cell? (canvas.place x y) =
      some (((calls.flatMap fragments).filter (·.IsAt x y)).foldl paint cell) := by
  rw [performAll_eq, hsized.cell?_plotAll hx hy, hcell]
  rfl

/-- What the fragments of a pixel have painted is the first of the nearest. -/
theorem foldl_paint_float (d₀ : Float) (c₀ : Rgb) (hd₀ : d₀.isNaN = false)
    (fs : List (Fragment Float)) :
    ∃ d c, fs.foldl paint (d₀, c₀) = (d, c) ∧ d ∈ d₀ :: fs.map (·.depth) ∧ d₀ ≤ d ∧
      (∀ f ∈ fs, f.depth.isNaN = false → f.depth ≤ d) ∧
      if d₀ < d then
        ∃ f, fs.find? (fun f => f.depth == d) = some f ∧ d = f.depth ∧ c = f.color
      else d = d₀ ∧ c = c₀ := by
  obtain ⟨k₀, hk₀⟩ := FloatRank.exists_rank hd₀
  obtain ⟨k, h⟩ := keepsNearest_foldl FloatRank.rankedBy (d₀, c₀) hk₀ fs
  have hlower : d₀ ≤ (fs.foldl paint (d₀, c₀)).1 :=
    (FloatRank.le_iff ..).2 ⟨k₀, k, hk₀, h.rank, h.lower⟩
  have hupper : ∀ f ∈ fs, f.depth.isNaN = false → f.depth ≤ (fs.foldl paint (d₀, c₀)).1 := by
    intro f hf hnumber
    obtain ⟨b, hb⟩ := FloatRank.exists_rank hnumber
    exact (FloatRank.le_iff ..).2 ⟨b, k, hb, h.rank, h.upper f hf b hb⟩
  rcases h.origin with ⟨rfl, hcell⟩ | ⟨hlt, f, hf, hcell⟩
  · have hsame : ¬ d₀ < (fs.foldl paint (d₀, c₀)).1 := by
      rw [hcell]
      exact FloatRank.not_lt_self d₀
    refine ⟨_, _, rfl, ?_, hlower, hupper, ?_⟩
    · rw [hcell]
      exact List.mem_cons_self
    · rw [if_neg hsame, hcell]
      exact ⟨rfl, rfl⟩
  · have hnearer : d₀ < (fs.foldl paint (d₀, c₀)).1 :=
      (FloatRank.lt_iff ..).2 ⟨k₀, k, hk₀, h.rank, hlt⟩
    -- floats that compare equal are those of one rank
    have hsame : (fun f : Fragment Float => f.depth == (fs.foldl paint (d₀, c₀)).1) =
        fun f => decide (FloatRank.rank? f.depth = some k) := by
      funext g
      rw [Bool.eq_iff_iff, FloatRank.beq_iff, decide_eq_true_iff, h.rank]
      constructor
      · rintro ⟨x, hx, hkx⟩
        exact hx.trans hkx.symm
      · intro hg
        exact ⟨k, hg, rfl⟩
    refine ⟨_, _, rfl, ?_, hlower, hupper, ?_⟩
    · rw [hcell]
      exact List.mem_cons_of_mem _ (List.mem_map_of_mem (List.mem_of_find?_eq_some hf))
    · rw [if_pos hnearer, hsame]
      exact ⟨f, hf, congrArg Prod.fst hcell, congrArg Prod.snd hcell⟩

theorem foldl_paint_beq (cell : Float × Rgb) (hcell : cell.1.isNaN = false)
    {fs fs' : List (Fragment Float)} (hdepths : ∀ f ∈ fs, ∃ f' ∈ fs', f'.depth = f.depth)
    (hdepths' : ∀ f ∈ fs', ∃ f' ∈ fs, f'.depth = f.depth) :
    ((fs.foldl paint cell).1 == (fs'.foldl paint cell).1) = true := by
  obtain ⟨k₀, hk₀⟩ := FloatRank.exists_rank hcell
  obtain ⟨k, h⟩ := keepsNearest_foldl FloatRank.rankedBy cell hk₀ fs
  obtain ⟨k', h'⟩ := keepsNearest_foldl FloatRank.rankedBy cell hk₀ fs'
  have heq : k = k' := le_antisymm (h.le h' hdepths) (h'.le h hdepths')
  exact (FloatRank.beq_iff ..).2 ⟨k, h.rank, heq ▸ h'.rank⟩

/-- **The nearest fragment wins, and of several of the same depth the first.** -/
theorem nearest_fragment_wins (canvas : Canvas Float) (hsized : canvas.Sized)
    (hdepths : ∀ d ∈ canvas.depths, d.isNaN = false) (calls : List (DrawCall Float)) :
    let out := performAll canvas calls
    let all := calls.flatMap fragments
    out.Sized ∧ out.picture.height = canvas.picture.height ∧
    out.picture.width = canvas.picture.width ∧
    (∀ (f : Fragment Float) i, index? canvas.picture.height canvas.picture.width f = some i →
      i < canvas.depths.size ∧ i < canvas.picture.pixels.size) ∧
    out = canvas.plotAll (all.filter fun f => 0 ≤ f.column ∧ f.column < canvas.picture.width ∧
      0 ≤ f.height ∧ f.height < canvas.picture.height) ∧
    (∀ x < canvas.picture.width, ∀ y < canvas.picture.height,
      let here := all.filter (·.IsAt x y)
      ∃ d₀ c₀ d c, canvas.cell? (canvas.place x y) = some (d₀, c₀) ∧
        out.cell? (canvas.place x y) = some (d, c) ∧
        d ∈ d₀ :: here.map (·.depth) ∧ d₀ ≤ d ∧
        (∀ f ∈ here, f.depth.isNaN = false → f.depth ≤ d) ∧
        if d₀ < d then
          ∃ f, here.find? (fun f => f.depth == d) = some f ∧ d = f.depth ∧ c = f.color
        else d = d₀ ∧ c = c₀) ∧
    ∀ calls' : List (DrawCall Float),
      ((calls.flatMap segments).map Prod.fst).Perm ((calls'.flatMap segments).map Prod.fst) →
      ∀ x < canvas.picture.width, ∀ y < canvas.picture.height,
        ∃ d c d' c', out.cell? (canvas.place x y) = some (d, c) ∧
          (performAll canvas calls').cell? (canvas.place x y) = some (d', c') ∧
          (d == d') = true := by
  have hall := performAll_eq canvas calls
  obtain ⟨hheight, hwidth⟩ := canvas.picture_plotAll (calls.flatMap fragments)
  refine ⟨hall ▸ hsized.plotAll _, hall ▸ hheight, hall ▸ hwidth, ?_, ?_, ?_, ?_⟩
  · intro f i hi
    have hlt := index?_lt hi
    exact ⟨hsized.depths ▸ hlt, hsized.pixels ▸ hlt⟩
  · rw [hall, ← plotAll_filter]
    congr 2
    funext f
    exact Bool.eq_iff_iff.2 (by rw [decide_eq_true_iff]; exact index?_isSome_iff f)
  · intro x hx y hy
    obtain ⟨d₀, c₀, hcell, hd₀⟩ := hsized.exists_cell hx hy
    obtain ⟨d, c, hpaint, hspec⟩ := foldl_paint_float d₀ c₀ (hdepths d₀ hd₀)
      ((calls.flatMap fragments).filter (·.IsAt x y))
    exact ⟨d₀, c₀, d, c, hcell, by rw [cell?_performAll hsized hx hy hcell, hpaint], hspec⟩
  · intro calls' hperm x hx y hy
    obtain ⟨d₀, c₀, hcell, hd₀⟩ := hsized.exists_cell hx hy
    refine ⟨_, _, _, _, cell?_performAll hsized hx hy hcell calls,
      cell?_performAll hsized hx hy hcell calls', ?_⟩
    exact foldl_paint_beq (d₀, c₀) (hdepths d₀ hd₀)
      (exists_depth_of_segments fun s hs => hperm.mem_iff.1 hs)
      (exists_depth_of_segments fun s hs => hperm.mem_iff.2 hs)

/-- Two lines of one depth that cross: the pixel where they do has the colour of the first. -/
theorem nearest_fragment_wins_crossing :
    let canvas : Canvas Float := .blank 3
    let red : DrawCall Float := line { Scene.default with lineColor := ⟨255, 0, 0⟩ }
      #[⟨0, 1, 0, 1⟩, ⟨2, 1, 0, 1⟩]
    let green : DrawCall Float := line { Scene.default with lineColor := ⟨0, 255, 0⟩ }
      #[⟨1, 0, 0, 1⟩, ⟨1, 4, 0, 1⟩]
    canvas.Sized ∧ (∀ d ∈ canvas.depths, d.isNaN = false) ∧
    (([red, green].flatMap segments).map Prod.fst).Perm
      (([green, red].flatMap segments).map Prod.fst) ∧
    ∃ d d', (performAll canvas [red, green]).cell? (canvas.place 1 1) = some (d, ⟨255, 0, 0⟩) ∧
      (performAll canvas [green, red]).cell? (canvas.place 1 1) = some (d', ⟨0, 255, 0⟩) ∧
      (d == d') = true := by
  intro canvas red green
  have hsized : canvas.Sized := ⟨Array.size_replicate, Array.size_replicate⟩
  have hdepths : ∀ d ∈ canvas.depths, d.isNaN = false := by
    intro d hd
    rw [Array.eq_of_mem_replicate hd]
    decide +kernel
  have hperm : (([red, green].flatMap segments).map Prod.fst).Perm
      (([green, red].flatMap segments).map Prod.fst) := .swap ..
  obtain ⟨-, -, -, -, -, -, horder⟩ :=
    nearest_fragment_wins canvas hsized hdepths [red, green]
  obtain ⟨d, c, d', c', hcell, hcell', hd⟩ := horder _ hperm 1 (by decide) 1 (by decide)
  have hred : ((performAll canvas [red, green]).cell? (canvas.place 1 1)).map Prod.snd =
      some ⟨255, 0, 0⟩ := by decide +kernel
  have hgreen : ((performAll canvas [green, red]).cell? (canvas.place 1 1)).map Prod.snd =
      some ⟨0, 255, 0⟩ := by decide +kernel
  rw [hcell] at hred
  rw [hcell'] at hgreen
  rw [show c = _ from Option.some.inj hred] at hcell
  rw [show c' = _ from Option.some.inj hgreen] at hcell'
  exact ⟨hsized, hdepths, hperm, d, d', hcell, hcell', hd⟩

end DrawCall

end Flipbook
