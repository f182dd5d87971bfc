import Flipbook.Proofs.PlacedVertices
import Mathlib.Algebra.BigOperators.Group.List.Basic
import Mathlib.Data.Sign.Basic
import Mathlib.Tactic.LinearCombination

/-!
# Which side of a triangle is outside

The winding of a triangle about a point is the determinant of its corners as they are seen from
there (`Triangle.windingAbout`); its sign says on which side of the triangle the point lies.  A map
of space magnifies by `d` when it multiplies the winding of every triangle about every point by `d`
(`Vec3.Magnifies`): moves and turns magnify by one, stretches by the product of their factors, and
maps that are applied one after the other by the product of theirs.

`Interpreter.orientation_of_run` says what this means for a run: the coordinate system in which a
solid is drawn magnifies by the product over the stretches in scope, so moves and turns never turn a
solid inside out, and stretches do so exactly when that product is negative.
-/

namespace Flipbook

namespace Vec3

variable {α : Type}

/-- The determinant of three vectors. -/
def det [Add α] [Sub α] [Mul α] (u v w : Vec3 α) : α := u.dot (v.cross w)

end Vec3

namespace Triangle

variable {α : Type}

/-- The triangle of the images of all corners. -/
def map (f : Vec3 α → Vec3 α) (t : Triangle α) : Triangle α := ⟨f t.a, f t.b, f t.c⟩

/-- The determinant of the corners as they are seen from a point. -/
def windingAbout [Add α] [Sub α] [Mul α] (t : Triangle α) (q : Vec3 α) : α :=
  Vec3.det (t.a - q) (t.b - q) (t.c - q)

theorem ofCorners_map (f : Vec3 α → Vec3 α) :
    ∀ vs : List (Vec3 α), ofCorners (vs.map f) = (ofCorners vs).map (map f)
  | [] | [_] | [_, _] => rfl
  | a :: b :: c :: rest => by simp only [List.map_cons, ofCorners, ofCorners_map f rest, map]

end Triangle

/-! ### Maps that magnify -/

namespace Vec3

variable {α : Type} [CommRing α]

/-- The map multiplies the winding of every triangle about every point by `d`. -/
def Magnifies (f : Vec3 α → Vec3 α) (d : α) : Prop :=
  ∀ (t : Triangle α) (q : Vec3 α), (t.map f).windingAbout (f q) = d * t.windingAbout q

theorem magnifies_id : Magnifies (fun v : Vec3 α => v) 1 := fun _ _ => (one_mul _).symm

theorem Magnifies.comp {f g : Vec3 α → Vec3 α} {d e : α} (hf : Magnifies f d)
    (hg : Magnifies g e) : Magnifies (fun v => f (g v)) (d * e) := by
  intro t q
  calc (t.map fun v => f (g v)).windingAbout (f (g q))
      = d * (t.map g).windingAbout (g q) := hf (t.map g) (g q)
    _ = d * e * t.windingAbout q := by rw [hg t q, mul_assoc]

theorem sub_def (u v : Vec3 α) : u - v = ⟨u.x - v.x, u.y - v.y, u.z - v.z⟩ := rfl

theorem add_def (u v : Vec3 α) : u + v = ⟨u.x + v.x, u.y + v.y, u.z + v.z⟩ := rfl

theorem magnifies_shift (d : Vec3 α) : Magnifies (fun v => v + d) 1 := by
  have difference (u v : Vec3 α) : u + d - (v + d) = u - v := by
    simp only [sub_def, add_def, add_sub_add_right_eq_sub]
  intro t q
  simp only [Triangle.windingAbout, Triangle.map, difference, one_mul]

theorem magnifies_scaling (k : Vec3 α) :
    Magnifies (Vec3.zipWith (· * ·) k) (k.x * k.y * k.z) := by
  intro t q
  simp only [Triangle.windingAbout, Triangle.map, zipWith, sub_def, det, dot, cross]
  ring

theorem magnifies_turned (axis : Axis) {c s : α} (h : c * c + s * s = 1) :
    Magnifies (turned axis c s) 1 := by
  intro t q
  -- turning multiplies the determinant by the sum of both squares
  have hsquares : ((t.map (turned axis c s)).windingAbout (turned axis c s q)) =
      (c * c + s * s) * t.windingAbout q := by
    cases axis <;>
      (simp only [Triangle.windingAbout, Triangle.map, turned, sub_def, det, dot, cross]; ring)
  rw [hsquares, h]

/-- What a map multiplies the winding by, where there is a map at all; a map without a factor of
its own keeps the winding. -/
def MagnifiesBy : Option (Vec3 α → Vec3 α) → Option α → Prop
  | none, d => d = none
  | some f, d => Magnifies f (d.getD 1)

theorem magnifies_through {ι : Type} {f : ι → Option (Vec3 α → Vec3 α)} {d : ι → Option α}
    (h : ∀ i, MagnifiesBy (f i) (d i)) (is : List ι) :
    Magnifies (fun v => v.through (is.filterMap f)) (is.filterMap d).prod := by
  induction is with
  | nil => exact magnifies_id
  | cons i is ih =>
    have hi := h i
    rw [List.filterMap_cons, List.filterMap_cons]
    cases hf : f i with
    | none =>
      rw [hf] at hi
      rw [show d i = none from hi]
      exact ih
    | some g =>
      rw [hf] at hi
      replace hi : Magnifies g ((d i).getD 1) := hi
      cases hd : d i with
      | none =>
        rw [hd] at hi
        have := hi.comp ih
        rwa [Option.getD_none, one_mul] at this
      | some x =>
        rw [hd] at hi
        rw [List.prod_cons]
        exact hi.comp ih

end Vec3

/-! ### Positions that leave no system -/

namespace Nesting

variable {α : Type} {ops : List (Operation α)} {k i : Nat} {op : Operation α}

theorem enclosedBefore_succ_iff (hop : ops[k]? = some op) (hpop : op.isPop = false) :
    EnclosedBefore ops (k + 1) i ↔ EnclosedBefore ops k i := by
  constructor
  · rintro ⟨q, hq, p, hp, hi, hmatched⟩
    rcases Nat.lt_succ_iff_lt_or_eq.1 hq with hlt | rfl
    · exact ⟨q, hlt, p, hp, hi, hmatched⟩
    · have hexit := hmatched.2.1
      rw [hop, Option.any_some, hpop] at hexit
      cases hexit
  · rintro ⟨q, hq, hrest⟩
    exact ⟨q, by omega, hrest⟩

end Nesting

namespace Performance

open Nesting Interpreter

variable {α σ : Type} [CommRing α] [Circular α] (p : Performance α σ)

/-- The product of the factors of the stretch at a position, each multiplied by its knob. -/
def stretchAt (i : Nat) : Option α :=
  match p.operations[i]? with
  | some (.scale d knob) =>
    (factor p.symbols knob).toOption.map fun k => d.x * k * (d.y * k) * (d.z * k)
  | _ => none

/-- The products of all stretches before `k` that are in scope there. -/
def stretchesBefore (k : Nat) : List α :=
  (List.range k).filterMap fun i =>
    if EnclosedBefore p.operations k i then none else p.stretchAt i

variable {p} {k : Nat} {op : Operation α}

theorem magnifiesBy_motionAt
    (hturn : ∀ a : α, Circular.cos a * Circular.cos a + Circular.sin a * Circular.sin a = 1)
    (i : Nat) : Vec3.MagnifiesBy (p.motionAt i) (p.stretchAt i) := by
  simp only [motionAt, stretchAt]
  cases hop : p.operations[i]? with
  | none => rfl
  | some op =>
    simp only [Option.bind_eq_bind, Option.bind_some]
    cases op with
    | move d knob =>
      simp only [Operation.factor?, Operation.motion?]
      cases factor p.symbols knob with
      | error => rfl
      | ok x => exact Vec3.magnifies_shift (d.scale x)
    | scale d knob =>
      simp only [Operation.factor?, Operation.motion?]
      cases factor p.symbols knob with
      | error => rfl
      | ok x => exact Vec3.magnifies_scaling (d.scale x)
    | rotate axis degrees knob =>
      simp only [Operation.factor?, Operation.motion?]
      cases factor p.symbols knob with
      | error => rfl
      | ok x => exact Vec3.magnifies_turned axis (hturn _)
    | _ => cases (factor p.symbols _).toOption <;> rfl

theorem magnifies_imageBefore
    (hturn : ∀ a : α, Circular.cos a * Circular.cos a + Circular.sin a * Circular.sin a = 1)
    (k : Nat) : Vec3.Magnifies (p.imageBefore k) (p.stretchesBefore k).prod := by
  refine Vec3.magnifies_through (fun i => ?_) _
  split
  · rfl
  · exact magnifiesBy_motionAt hturn i

omit [Circular α] in
theorem stretchesBefore_succ (hop : p.operations[k]? = some op) (hpop : op.isPop = false)
    (hstretch : p.stretchAt k = none) : p.stretchesBefore (k + 1) = p.stretchesBefore k := by
  simp only [stretchesBefore, List.range_succ, List.filterMap_append,
    enclosedBefore_succ_iff hop hpop]
  simp [hstretch]

section Run

variable [Div α] {before : List (Event α)} {s : Stage α σ} (h₀ : p.Stands before 0 s)
  (hk : k ≤ p.operations.length)
  (hrun : (p.interpreter.run p.symbols (p.operations.take k) s).fault? = none)

include h₀ hk hrun

theorem top_of_run (v : Vec3 α) :
    ((p.interpreter.run p.symbols (p.operations.take k) s).state.frame.stack.top.apply
      v.homogeneous).cartesian = p.imageBefore k v := by
  have hok := faultAt_of_run_take h₀ hk hrun
  rw [(stands_run_take h₀ hk hok).2.stack, top_stackBefore (soundBefore_of_faultAt hok),
    topBefore_apply]
  rfl

/-- The vertices that a builder has made are requested in the current coordinate system. -/
theorem events_of_request {vertices : Array (Vec3 α)} {e : Event α}
    (hop : p.operations[k]? = some op)
    (hvertices : op.vertices? p.interpreter.steps = some (.ok vertices))
    (he : p.interpreter.request? p.symbols (placed (p.interpreter.run p.symbols
      (p.operations.take k) s).state.frame.stack.top vertices) op = some e) :
    (p.interpreter.run p.symbols (p.operations.take (k + 1)) s).state.events.toList =
      (p.interpreter.run p.symbols (p.operations.take k) s).state.events.toList ++
        [.step p.index op, e].filter p.interpreter.watches := by
  have hok := faultAt_of_run_take h₀ hk hrun
  have hsound := soundBefore_of_faultAt hok
  obtain ⟨-, hstands⟩ := stands_run_take h₀ hk hok
  have hdrawing : p.drawing? (p.topBefore k) op = some (.ok e) := by
    refine drawing_of_vertices hvertices ?_
    rw [← top_stackBefore hsound, ← hstands.stack]
    exact he
  obtain ⟨-, -, hevents⟩ :=
    (performed_execute hstands hsound hop).drawn hstands hop hdrawing
  rw [run_take_succ hop, Outcome.andThen_of_none hrun]
  exact hevents

end Run

end Performance

/-- Of a product of signs of which the second is not zero, the first is negative exactly when it
changes the second. -/
theorem sign_mul_eq_neg_iff {x y : SignType} (hy : y ≠ 0) : x * y = -y ↔ x = -1 := by
  revert x y
  decide

open Performance

variable {α σ : Type} [CommRing α] [Div α] [Circular α]

/-- **A solid is turned inside out exactly when it is mirrored.**  On a frame with nothing on its
stack but the identity and nothing waiting, wherever a run has come to, its current coordinate
system multiplies the winding of every triangle about every point by the product of the stretches
in scope.  A primitive hands over the images of the triangles that its builder has made; a move or
a turn that is carried out leaves every winding as it is; and among ordered scalars a winding keeps
its sign, loses it or gets the other one as that product is positive, zero or negative. -/
theorem Interpreter.orientation_of_run (I : Interpreter α σ) (t : SymbolTable α)
    (ops : List (Operation α)) (s : Stage α σ) (hidle : s.frame.Idle)
    (hstack : s.frame.stack = .single .identity)
    (hturn : ∀ a : α, Circular.cos a * Circular.cos a + Circular.sin a * Circular.sin a = 1) :
    let p : Performance α σ := ⟨I, t, ops, s.frame.index, s.frame.canvas, s.world⟩
    let reached (k : Nat) : Outcome (Stage α σ) := I.run t (ops.take k) s
    let image (k : Nat) (v : Vec3 α) : Vec3 α :=
      ((reached k).state.frame.stack.top.apply v.homogeneous).cartesian
    ∀ k ≤ ops.length, (reached k).fault? = none →
      (∀ (tri : Triangle α) (q : Vec3 α), (tri.map (image k)).windingAbout (image k q) =
        (p.stretchesBefore k).prod * tri.windingAbout q) ∧
      (∀ op vertices, ops[k]? = some op → op.vertices? I.steps = some (.ok vertices) →
        let points := placed (reached k).state.frame.stack.top vertices
        Triangle.ofCorners (Rasterizer.positions points) =
          (Triangle.ofCorners vertices.toList).map (Triangle.map (image k)) ∧
        ∀ e, I.request? t points op = some e →
          (reached (k + 1)).state.events.toList = (reached k).state.events.toList ++
            [.step s.frame.index op, e].filter I.watches) ∧
      (∀ op, ops[k]? = some op →
        (∃ d knob, op = .move d knob) ∨ (∃ axis degrees knob, op = .rotate axis degrees knob) →
        (reached (k + 1)).fault? = none → ∀ (tri : Triangle α) (q : Vec3 α),
          (tri.map (image (k + 1))).windingAbout (image (k + 1) q) =
            (tri.map (image k)).windingAbout (image k q)) ∧
      (∀ [LinearOrder α] [IsStrictOrderedRing α] (tri : Triangle α) (q : Vec3 α),
        SignType.sign ((tri.map (image k)).windingAbout (image k q)) =
          SignType.sign (p.stretchesBefore k).prod * SignType.sign (tri.windingAbout q) ∧
        (tri.windingAbout q ≠ 0 →
          (SignType.sign ((tri.map (image k)).windingAbout (image k q)) =
            -SignType.sign (tri.windingAbout q) ↔ (p.stretchesBefore k).prod < 0))) := by
  intro p reached image k hk hreached
  have h₀ : p.Stands s.events.toList 0 s := stands_zero hidle hstack I t ops
  have himage {k : Nat} (hk : k ≤ ops.length) (h : (reached k).fault? = none) :
      image k = p.imageBefore k := funext (top_of_run (p := p) h₀ hk h)
  have hmagnifies {k : Nat} (hk : k ≤ ops.length) (h : (reached k).fault? = none) :
      Vec3.Magnifies (image k) (p.stretchesBefore k).prod := by
    rw [himage hk h]
    exact magnifies_imageBefore hturn k
  refine ⟨hmagnifies hk hreached, fun op vertices hop hvertices => ⟨?_, fun e he => ?_⟩,
    fun op hop hkind hnext tri q => ?_, ?_⟩
  · have hpositions : Rasterizer.positions (placed (reached k).state.frame.stack.top vertices) =
        vertices.toList.map (image k) := by
      simp [Rasterizer.positions, placed, image, Function.comp_def]
    rw [hpositions, Triangle.ofCorners_map]
  · exact events_of_request (p := p) h₀ hk hreached hop hvertices he
  · have hstretches : p.stretchesBefore (k + 1) = p.stretchesBefore k := by
      rcases hkind with ⟨d, knob, rfl⟩ | ⟨axis, degrees, knob, rfl⟩ <;>
        exact stretchesBefore_succ hop rfl (by simp only [stretchAt, p, hop])
    rw [hmagnifies (List.getElem?_eq_some_iff.1 hop).1 hnext, hmagnifies hk hreached, hstretches]
  · intro _ _ tri q
    have hsign : SignType.sign ((tri.map (image k)).windingAbout (image k q)) =
        SignType.sign (p.stretchesBefore k).prod * SignType.sign (tri.windingAbout q) := by
      rw [hmagnifies hk hreached tri q, sign_mul]
    refine ⟨hsign, fun hne => ?_⟩
    rw [hsign, sign_mul_eq_neg_iff (sign_ne_zero.2 hne), sign_eq_neg_one_iff]

/-- A box that is mirrored and stretched by a knob, and turned inside. -/
theorem Interpreter.orientation_of_run_mirrored_box :
    letI := Circular.quarterTurns
    let scene : Scene Int :=
      ⟨⟨0, 0, 1⟩, ⟨0, 0, 0⟩, ⟨⟨0, 0, 1⟩, ⟨0, 0, 0⟩⟩, .uniform ⟨1, 1, 1⟩, ⟨255, 255, 255⟩⟩
    let I : Interpreter Int Unit := ⟨.silent, .silent, scene, 3, fun _ => true⟩
    let t : SymbolTable Int := ⟨.ofList [("size", 3)], .empty⟩
    let ops : List (Operation Int) := [.push, .scale ⟨5, 5, 5⟩ none, .pop, .move ⟨1, 0, 0⟩ none,
      .scale ⟨-1, 2, 1⟩ (some "size"), .rotate .z 90 none,
      .box ⟨0, 0, 0⟩ ⟨1, 1, 1⟩ none none]
    let s : Stage Int Unit := ⟨⟨0, ⟨.solid 1 1 .black, #[0]⟩, .single .identity,
      .empty .polygons, .empty .edges⟩, #[], ()⟩
    let image (v : Vec3 Int) : Vec3 Int :=
      ((I.run t (ops.take 6) s).state.frame.stack.top.apply v.homogeneous).cartesian
    s.frame.Idle ∧ s.frame.stack = .single .identity ∧
      (∀ a : Int, Circular.cos a * Circular.cos a + Circular.sin a * Circular.sin a = 1) ∧
      (I.run t (ops.take 6) s).fault? = none ∧
      ∀ tri ∈ Triangle.ofCorners (Mesh.box (⟨0, 0, 0⟩ : Vec3 Int) ⟨1, 1, 1⟩).toList,
        (tri.map image).windingAbout (image ⟨2, 2, 2⟩) = -54 * tri.windingAbout ⟨2, 2, 2⟩ := by
  let _ := Circular.quarterTurns
  intro scene I t ops s image
  let p : Performance Int Unit := ⟨I, t, ops, s.frame.index, s.frame.canvas, s.world⟩
  have hidle : s.frame.Idle := ⟨rfl, rfl, rfl, rfl⟩
  have hturn (a : Int) : Circular.cos a * Circular.cos a + Circular.sin a * Circular.sin a = 1 :=
    rfl
  have hreached : (I.run t (ops.take 6) s).fault? = none := rfl
  have hstretches : (p.stretchesBefore 6).prod = -54 := by decide +kernel
  obtain ⟨hwinding, -⟩ := I.orientation_of_run t ops s hidle rfl hturn 6 (by decide) hreached
  refine ⟨hidle, rfl, hturn, hreached, fun tri _ => ?_⟩
  rw [← hstretches]
  exact hwinding tri ⟨2, 2, 2⟩

end Flipbook
