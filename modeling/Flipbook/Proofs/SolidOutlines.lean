import Flipbook.Proofs.FlatTriangles
import Flipbook.Proofs.NearestFragment
import Flipbook.Proofs.Outcome
import Flipbook.Proofs.Surface
import Flipbook.Proofs.WholeFloats

/-!
# Solids are drawn as lines

The rasterizer picks those triangles of a solid that face the viewer and draws the sides of all of
them at once.  That is as if it went from triangle to triangle and drew the three sides of each that
faces the viewer as lines (`DrawCall.solid_eq_lines`), in the diffuse colour of the material with
every channel cut to what a byte holds.  A solid can therefore be drawn in parts.
-/

namespace Flipbook

namespace Rgb

/-- A channel cut to what a byte holds. -/
def clip (n : Int) : Int := max 0 (min n 255)

theorem toNat_saturate (n : Int) : ((saturate n).toNat : Int) = clip n := by
  have hlt : min n.toNat 255 < 256 := by omega
  unfold saturate clip
  rw [UInt8.toNat_ofNat_of_lt' hlt]
  omega

theorem saturate_clip (n : Int) : saturate (clip n) = saturate n := by
  unfold saturate clip
  congr 1
  omega

theorem isSome_ofInteger?_clip (n : Int) :
    (OfInteger.ofInteger? (clip n) : Option Float).isSome := by
  refine FloatRange.isSome_ofInteger? (.of_le ?_)
  unfold clip
  omega

theorem ofChannels_clip (v : Vec3 Int) : ofChannels (v.map clip) = .ok (saturated v) := by
  have hall : (v.map clip).toList.all fun n =>
      (OfInteger.ofInteger? n : Option Float).isSome := by
    simp [Vec3.toList, Vec3.map, isSome_ofInteger?_clip]
  unfold ofChannels
  rw [if_pos hall]
  simp only [saturated, Vec3.map, saturate_clip]

end Rgb

namespace Wireframe

theorem exists_channel {k : Float} (h : (k * 255).isFinite = true) :
    ∃ n, channel k = .ok n := by
  obtain ⟨n, whole, hfloor, hwhole⟩ := FloatRange.exists_whole_of_isFinite h
  change ∃ n, roundHalfEven (k * 255) = .ok n
  unfold roundHalfEven
  rw [hfloor]
  dsimp only
  rw [hwhole]
  dsimp only
  split
  · exact ⟨_, rfl⟩
  split <;> exact ⟨_, rfl⟩

theorem tint_eq {c : Constants Float} {v : Vec3 Int} (hx : channel c.diffuse.x = .ok v.x)
    (hy : channel c.diffuse.y = .ok v.y) (hz : channel c.diffuse.z = .ok v.z) :
    tint c = .ok (.saturated v) := by
  unfold tint
  rw [hx, hy, hz]
  rfl

end Wireframe

namespace DrawCall

open Rasterizer

section Draws

variable {α : Type} [Zero α] [Add α] [Sub α] [Mul α] [Div α] [Neg α] [NatCast α] [LT α]
  [DecidableLT α] [Floor α] [OfInteger α]

/-- What a call does to a canvas. -/
def draw (call : DrawCall α) (canvas : Canvas α) : Outcome (Canvas α) :=
  match call with
  | solid scene points constants => wireframe.drawSolid scene points constants canvas
  | line scene points => wireframe.drawLine scene points canvas

/-- The colours that the call needs are at hand. -/
def Colored : DrawCall α → Prop
  | solid _ _ constants => ∃ color, Wireframe.tint constants = .ok color
  | line scene _ => ∃ color, Rgb.ofChannels scene.lineColor = .ok color

theorem Colored.draw_eq {call : DrawCall α} (h : call.Colored) (canvas : Canvas α) :
    call.draw canvas = .done (call.perform canvas) := by
  have hstate : call.perform canvas = (call.draw canvas).state := by cases call <;> rfl
  have hfault : (call.draw canvas).fault? = none := by
    cases call with
    | solid scene points constants =>
      obtain ⟨color, hcolor⟩ := h
      simp only [draw, wireframe, Wireframe.drawSolid, hcolor]
      cases (Triangle.ofCorners (positions points)).filter (·.facing scene.view) <;> rfl
    | line scene points =>
      obtain ⟨color, hcolor⟩ := h
      simp only [draw, wireframe, Wireframe.drawLine, hcolor]
      cases positions points <;> rfl
  rw [hstate, ← Outcome.eq_done hfault]

theorem sequence_draw {calls : List (DrawCall α)} (h : ∀ call ∈ calls, call.Colored)
    (canvas : Canvas α) : Outcome.sequence draw calls canvas = .done (performAll canvas calls) := by
  induction calls generalizing canvas with
  | nil => rfl
  | cons call calls ih =>
    rw [Outcome.sequence_cons, (h call List.mem_cons_self).draw_eq, Outcome.done_andThen,
      ih fun call' hcall' => h call' (List.mem_cons_of_mem call hcall')]
    rfl

/-- Calls draw what one call draws that has the same segments in the same order. -/
theorem sequence_draw_of_segments {call : DrawCall α} {calls : List (DrawCall α)}
    (hcall : call.Colored) (hcalls : ∀ call ∈ calls, call.Colored)
    (hsegments : calls.flatMap segments = call.segments) (canvas : Canvas α) :
    Outcome.sequence draw calls canvas = call.draw canvas := by
  have hfragments : calls.flatMap fragments = call.fragments := by
    unfold fragments
    rw [← List.flatMap_assoc, hsegments]
  rw [sequence_draw hcalls, hcall.draw_eq, performAll_eq, perform_eq, hfragments]

/-! ### Outlines -/

/-- The lines around a triangle that faces the viewer; around another there are none. -/
def outline (scene : Scene α) (color : Vec3 Int) (f : Face (Vec4 α)) : List (DrawCall α) :=
  if 0 < ((f.b.cartesian - f.a.cartesian).cross (f.c.cartesian - f.a.cartesian)).dot scene.view then
    f.sides.map fun side => line { scene with lineColor := color } #[side.1, side.2]
  else []

omit [Neg α] in
theorem colored_of_mem_outline {scene : Scene α} {color : Vec3 Int} {rgb : Rgb}
    (hcolor : Rgb.ofChannels color = .ok rgb) {f : Face (Vec4 α)} {call : DrawCall α}
    (h : call ∈ outline scene color f) : call.Colored := by
  unfold outline at h
  split at h
  · obtain ⟨side, -, rfl⟩ := List.mem_map.1 h
    exact ⟨rgb, hcolor⟩
  · cases h

omit [Neg α] in
theorem segments_outline {scene : Scene α} {color : Vec3 Int} {rgb : Rgb}
    (hcolor : Rgb.ofChannels color = .ok rgb) (f : Face (Vec4 α)) :
    (outline scene color f).flatMap segments =
      if (f.triangle Vec4.cartesian).facing scene.view then
        (f.triangle Vec4.cartesian).sides.map (·, rgb)
      else [] := by
  have hfacing : (f.triangle Vec4.cartesian).facing scene.view = decide (0 <
      ((f.b.cartesian - f.a.cartesian).cross (f.c.cartesian - f.a.cartesian)).dot scene.view) := rfl
  rw [hfacing]
  unfold outline
  by_cases h : 0 <
      ((f.b.cartesian - f.a.cartesian).cross (f.c.cartesian - f.a.cartesian)).dot scene.view
  · rw [if_pos h, if_pos (decide_eq_true h), List.flatMap_map]
    simp only [segments, hcolor]
    rfl
  · rw [if_neg h, if_neg (by simpa using h)]
    rfl

omit [Neg α] in
theorem segments_solid {scene : Scene α} {constants : Constants α} {color : Vec3 Int} {rgb : Rgb}
    (htint : Wireframe.tint constants = .ok rgb) (hcolor : Rgb.ofChannels color = .ok rgb)
    (points : Array (Vec4 α)) : (solid scene points constants).segments =
      ((Face.ofCorners points.toList).flatMap (outline scene color)).flatMap segments := by
  simp only [segments, htint, positions, Face.triangles_map]
  induction Face.ofCorners points.toList with
  | nil => rfl
  | cons f fs ih =>
    rw [List.map_cons, List.filter_cons, List.flatMap_cons, List.flatMap_append,
      segments_outline hcolor, ← ih]
    split
    · rw [List.flatMap_cons, List.map_append]
    · rfl

omit [Neg α] in
theorem segments_parts {scene : Scene α} {constants : Constants α} {color : Vec3 Int} {rgb : Rgb}
    (htint : Wireframe.tint constants = .ok rgb) (hcolor : Rgb.ofChannels color = .ok rgb)
    {points : Array (Vec4 α)} {parts : List (Array (Vec4 α))} (hparts : ∀ p ∈ parts, 3 ∣ p.size)
    (hpoints : points.toList = parts.flatMap Array.toList) :
    (parts.map fun p => solid scene p constants).flatMap segments =
      (solid scene points constants).segments := by
  simp only [List.flatMap_map, segments_solid htint hcolor]
  rw [hpoints, Face.ofCorners_flatMap hparts, List.flatMap_assoc, List.flatMap_assoc]
  refine List.flatMap_congr fun p _ => ?_
  rw [List.flatMap_assoc]

end Draws

/-- A triangle with two corners at one place has no outline. -/
theorem outline_of_not_proper {scene : Scene Float} {color : Vec3 Int} {f : Face (Vec4 Float)}
    (h : ¬ (f.map Vec4.cartesian).Proper) : outline scene color f = [] := by
  have hequal : f.a.cartesian = f.b.cartesian ∨ f.b.cartesian = f.c.cartesian ∨
      f.c.cartesian = f.a.cartesian := by
    unfold Face.Proper at h
    tauto
  have haway : (f.triangle Vec4.cartesian).facing scene.view = false :=
    Triangle.not_facing_of_eq hequal scene.view
  exact if_neg (of_decide_eq_false haway)

/-- **A solid is drawn as the lines around its triangles that face the viewer**, in the diffuse
colour cut to bytes, and as its parts one after the other. -/
theorem solid_eq_lines (scene : Scene Float) (points : Array (Vec4 Float))
    (constants : Constants Float)
    (hfinite : ∀ k ∈ constants.diffuse.toList, (k * 255).isFinite = true) :
    ∃ red green blue, Wireframe.channel constants.diffuse.x = .ok red ∧
      Wireframe.channel constants.diffuse.y = .ok green ∧
      Wireframe.channel constants.diffuse.z = .ok blue ∧
      let color : Vec3 Int := ⟨Rgb.clip red, Rgb.clip green, Rgb.clip blue⟩
      (∃ rgb, Rgb.ofChannels color = .ok rgb ∧ rgb.toList.map Int.ofNat = color.toList) ∧
      (∀ f : Face (Vec4 Float), ¬ (f.map Vec4.cartesian).Proper → outline scene color f = []) ∧
      ∀ canvas : Canvas Float,
        ((solid scene points constants).draw canvas).fault? = none ∧
        (solid scene points constants).draw canvas = Outcome.sequence draw
          ((Face.ofCorners points.toList).flatMap (outline scene color)) canvas ∧
        ∀ parts : List (Array (Vec4 Float)), (∀ p ∈ parts, 3 ∣ p.size) →
          points.toList = parts.flatMap Array.toList →
          (solid scene points constants).draw canvas =
            Outcome.sequence draw (parts.map fun p => solid scene p constants) canvas := by
  obtain ⟨red, hred⟩ :=
    Wireframe.exists_channel (hfinite constants.diffuse.x (by simp [Vec3.toList]))
  obtain ⟨green, hgreen⟩ :=
    Wireframe.exists_channel (hfinite constants.diffuse.y (by simp [Vec3.toList]))
  obtain ⟨blue, hblue⟩ :=
    Wireframe.exists_channel (hfinite constants.diffuse.z (by simp [Vec3.toList]))
  have htint := Wireframe.tint_eq (v := ⟨red, green, blue⟩) hred hgreen hblue
  have hcolor := Rgb.ofChannels_clip ⟨red, green, blue⟩
  have hsolid (p : Array (Vec4 Float)) : (solid scene p constants).Colored := ⟨_, htint⟩
  refine ⟨red, green, blue, hred, hgreen, hblue, ⟨_, hcolor, ?_⟩,
    fun _ => outline_of_not_proper, fun canvas => ⟨?_, ?_, ?_⟩⟩
  · simp [Rgb.toList, Rgb.saturated, Vec3.toList, Rgb.toNat_saturate]
  · rw [(hsolid points).draw_eq]
    rfl
  · refine (sequence_draw_of_segments (hsolid points) (fun call hcall => ?_)
      (segments_solid htint hcolor points).symm canvas).symm
    obtain ⟨f, -, hf⟩ := List.mem_flatMap.1 hcall
    exact colored_of_mem_outline hcolor hf
  · intro parts hparts hpoints
    refine (sequence_draw_of_segments (hsolid points) (fun call hcall => ?_)
      (segments_parts htint hcolor hparts hpoints) canvas).symm
    obtain ⟨p, -, rfl⟩ := List.mem_map.1 hcall
    exact hsolid p

/-- A triangle that faces the viewer and one that does not, in a colour that is out of range in two
channels. -/
theorem solid_eq_lines_out_of_range :
    let scene := Scene.default
    let constants : Constants Float := ⟨⟨0, 2, 0⟩, ⟨0, -1, 0⟩, ⟨0, 0.5, 0⟩⟩
    let facing : Array (Vec4 Float) := #[⟨0, 0, 0, 1⟩, ⟨2, 0, 0, 1⟩, ⟨0, 2, 0, 1⟩]
    let away : Array (Vec4 Float) := #[⟨0, 0, 5, 1⟩, ⟨0, 2, 5, 1⟩, ⟨2, 0, 5, 1⟩]
    let color : Vec3 Int := ⟨255, 0, 128⟩
    (∀ k ∈ constants.diffuse.toList, (k * 255).isFinite = true) ∧
    (solid scene (facing ++ away) constants).draw (.blank 3) =
      Outcome.sequence draw [line { scene with lineColor := color } #[facing[0], facing[1]],
        line { scene with lineColor := color } #[facing[1], facing[2]],
        line { scene with lineColor := color } #[facing[2], facing[0]]] (.blank 3) ∧
    (solid scene (facing ++ away) constants).draw (.blank 3) =
      Outcome.sequence draw [solid scene facing constants, solid scene away constants]
        (.blank 3) := by
  intro scene constants facing away color
  have hfinite : ∀ k ∈ constants.diffuse.toList, (k * 255).isFinite = true := by decide +kernel
  obtain ⟨red, green, blue, hred, hgreen, hblue, -, -, hdraw⟩ :=
    solid_eq_lines scene (facing ++ away) constants hfinite
  obtain ⟨-, hlines, hparts⟩ := hdraw (.blank 3)
  refine ⟨hfinite, ?_, hparts [facing, away] (by decide) rfl⟩
  have hcolor : (⟨Rgb.clip red, Rgb.clip green, Rgb.clip blue⟩ : Vec3 Int) = color := by
    have hred' : (Wireframe.channel constants.diffuse.x).toOption = some 510 := by decide +kernel
    have hgreen' : (Wireframe.channel constants.diffuse.y).toOption = some (-255) := by
      decide +kernel
    have hblue' : (Wireframe.channel constants.diffuse.z).toOption = some 128 := by decide +kernel
    rw [hred] at hred'
    rw [hgreen] at hgreen'
    rw [hblue] at hblue'
    cases hred'
    cases hgreen'
    cases hblue'
    rfl
  have hseen : outline scene color ⟨facing[0], facing[1], facing[2]⟩ =
      [line { scene with lineColor := color } #[facing[0], facing[1]],
        line { scene with lineColor := color } #[facing[1], facing[2]],
        line { scene with lineColor := color } #[facing[2], facing[0]]] :=
    if_pos (by decide +kernel)
  have hunseen : outline scene color ⟨away[0], away[1], away[2]⟩ = [] := if_neg (by decide +kernel)
  have hfaces : Face.ofCorners (facing ++ away).toList =
      [⟨facing[0], facing[1], facing[2]⟩, ⟨away[0], away[1], away[2]⟩] := rfl
  rw [hlines, hcolor, hfaces, List.flatMap_cons, List.flatMap_singleton, hseen, hunseen,
    List.append_nil]

end DrawCall

end Flipbook
