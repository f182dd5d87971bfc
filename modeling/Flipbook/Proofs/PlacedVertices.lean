import Flipbook.Proofs.AffineMap
import Flipbook.Proofs.ScopedRun

/-!
# Where the vertices of a primitive are drawn

In exact arithmetic the current coordinate system takes a vertex through the elementary maps of the
transformations in scope, the most recent one first: a move adds its vector, a scaling multiplies
the coordinates, a rotation turns about its axis.  `Performance.motionsBefore` lists these maps
without a matrix and without a stack, and `Interpreter.vertices_of_run` says that the rasterizer is
handed the images of what the builder of a primitive has made.  On the way every matrix on the
stack keeps the last row of the identity, so the fourth coordinate of what is handed over is one.
-/

namespace Flipbook

namespace OriginStack

/-- The entries from the top down. -/
def entries {M : Type} (s : OriginStack M) : List M := s.top :: s.below

end OriginStack

namespace Operation

variable {α : Type}

/-- The map of space that a transformation stands for when its numbers are multiplied by `k`. -/
def motion? [CommRing α] [Circular α] (k : α) : Operation α → Option (Vec3 α → Vec3 α)
  | move d _ => some fun v => v + d.scale k
  | scale d _ => some (Vec3.zipWith (· * ·) (d.scale k))
  | rotate axis degrees _ =>
    let angle := degrees * Circular.degree * k
    some (Vec3.turned axis (Circular.cos angle) (Circular.sin angle))
  | _ => none

/-- The vertices that the builder of a primitive makes. -/
def vertices? [Zero α] [One α] [Add α] [Mul α] [Neg α] [Div α] [NatCast α] [Circular α]
    (steps : Int) : Operation α → Option (Except GeometryFault (Array (Vec3 α)))
  | box corner extent .. => some (.ok (Mesh.box corner extent))
  | sphere centre radius .. => some ((Mesh.checkedSteps steps).map (Mesh.sphere centre radius))
  | torus centre tube ring .. =>
    some ((Mesh.checkedSteps steps).map (Mesh.torus centre tube ring))
  | line start stop .. => some (.ok #[start, stop])
  | _ => none

end Operation

/-- How points are handed to the rasterizer by an operation whose material is found: as a solid in
that material or as a line. -/
def Interpreter.request? {α σ : Type} (I : Interpreter α σ) (t : SymbolTable α)
    (points : Array (Vec4 α)) : Operation α → Option (Event α)
  | .box _ _ name _ | .sphere _ _ name _ | .torus _ _ _ name _ =>
    (I.material t name).toOption.map (.solid points)
  | .line .. => some (.line points)
  | _ => none

namespace Performance

open Nesting Interpreter

section Request

variable {α σ : Type} {p : Performance α σ} {k : Nat} {op : Operation α}
variable {before : List (Event α)} {s : Stage α σ}

theorem solid_of_request {name : Option String} {points : Array (Vec4 α)} {e : Event α}
    (he : (p.interpreter.material p.symbols name).toOption.map (.solid points) = some e) :
    ∃ c, p.interpreter.material p.symbols name = .ok c ∧ e = .solid points c := by
  cases hc : p.interpreter.material p.symbols name with
  | error => rw [hc] at he; cases he
  | ok c => rw [hc] at he; exact ⟨c, rfl, (Option.some.inj he).symm⟩

theorem steps_of_vertices {steps : Int} {build : Nat → Array (Vec3 α)}
    {vertices : Array (Vec3 α)}
    (h : some ((Mesh.checkedSteps steps).map build) = some (.ok vertices)) :
    ∃ n, Mesh.checkedSteps steps = .ok n ∧ vertices = build n := by
  cases hn : Mesh.checkedSteps steps with
  | error => rw [hn] at h; cases h
  | ok n => rw [hn] at h; exact ⟨n, rfl, (Except.ok.inj (Option.some.inj h)).symm⟩

variable [Zero α] [One α] [Add α] [Mul α] [Neg α] [Div α] [NatCast α] [Circular α]

theorem drawing_of_vertices {vertices : Array (Vec3 α)} {top : Matrix4 α} {e : Event α}
    (hvertices : op.vertices? p.interpreter.steps = some (.ok vertices))
    (he : p.interpreter.request? p.symbols (placed top vertices) op = some e) :
    p.drawing? top op = some (.ok e) := by
  cases op with
  | box =>
    obtain ⟨c, hc, rfl⟩ := solid_of_request he
    obtain rfl := Except.ok.inj (Option.some.inj hvertices)
    rw [drawing?, hc]
    rfl
  | sphere | torus =>
    obtain ⟨c, hc, rfl⟩ := solid_of_request he
    obtain ⟨n, hn, rfl⟩ := steps_of_vertices hvertices
    rw [drawing?, hc, hn]
    rfl
  | line =>
    obtain rfl := Except.ok.inj (Option.some.inj hvertices)
    obtain rfl := Option.some.inj he
    rfl
  | _ => cases hvertices

theorem Performed.drawn {o : Outcome (Stage α σ)} (ho : p.Performed before k o)
    (h : p.Stands before k s) (hop : p.operations[k]? = some op) {e : Event α}
    (he : p.drawing? (p.topBefore k) op = some (.ok e)) :
    o.fault? = (p.interpreter.draw e s.frame.canvas).fault? ∧
      o.state.frame.canvas = (p.interpreter.draw e s.frame.canvas).state ∧
      o.state.events.toList =
        s.events.toList ++ [.step p.index op, e].filter p.interpreter.watches := by
  have hcall : p.callAt k = some e := by
    rw [callAt_eq_drawAt hop he, drawAt_eq hop, he]
    rfl
  -- the exporter has no part in a drawing
  have hquiet : ∀ w, p.interpreter.handOver e w = { world := w } := by
    rcases drawing_cases he with ⟨_, _, rfl⟩ | ⟨_, rfl⟩ <;> exact fun _ => rfl
  refine ⟨?_, ?_, ?_⟩
  · rw [ho.fault, faultAt_of_call hcall, hquiet, Option.or_none, h.canvas]
  · rw [ho.shown.canvas, canvasBefore_succ_of_call hcall, h.canvas]
  · have htold : p.toldAt k = [.step p.index op, e] := by
      simp [toldAt, hop, hcall, answersAt, hquiet]
    rw [ho.shown.events, h.events, toldBefore_succ, htold, List.filter_append, List.append_assoc]

theorem faultAt_of_run_take (h₀ : p.Stands before 0 s) (hk : k ≤ p.operations.length)
    (hrun : (p.interpreter.run p.symbols (p.operations.take k) s).fault? = none) :
    ∀ i < k, p.faultAt i = none := by
  induction k with
  | zero => exact fun i hi => absurd hi (by omega)
  | succ k ih =>
    have hop : p.operations[k]? = some p.operations[k] := List.getElem?_eq_getElem hk
    rw [run_take_succ hop] at hrun
    obtain ⟨hbefore, hlast⟩ := Outcome.andThen_fault_none hrun
    have hok := ih (by omega) hbefore
    obtain ⟨-, hstands⟩ := stands_run_take h₀ (by omega) hok
    have hdone := performed_execute hstands (soundBefore_of_faultAt hok) hop
    intro i hi
    rcases Nat.lt_or_ge i k with hlt | hge
    · exact hok i hlt
    · obtain rfl : i = k := by omega
      exact hdone.fault.symm.trans hlast

end Request

/-! ### Exact arithmetic -/

variable {α σ : Type} [CommRing α] [Circular α] (p : Performance α σ)

/-- The map of the transformation at a position, with its numbers multiplied by its knob. -/
def motionAt (i : Nat) : Option (Vec3 α → Vec3 α) := do
  let op ← p.operations[i]?
  let k ← (factor p.symbols op.factor?).toOption
  op.motion? k

/-- The maps, in order, of the transformations before `k` that are in scope there. -/
def motionsBefore (k : Nat) : List (Vec3 α → Vec3 α) :=
  (List.range k).filterMap fun i =>
    if EnclosedBefore p.operations k i then none else p.motionAt i

/-- Where a vertex that is made at position `k` lies: it goes through the maps in scope, the most
recent one first. -/
def imageBefore (k : Nat) (v : Vec3 α) : Vec3 α := v.through (p.motionsBefore k)

variable {p} {k : Nat} {op : Operation α} {before : List (Event α)} {s : Stage α σ}

omit [Circular α] in
/-- A matrix and a map that are made from the same knob are both there or both missing. -/
theorem realizes_of_factor {m : α → Matrix4 α} {f : α → Vec3 α → Vec3 α}
    (h : ∀ x, (m x).Realizes (f x)) (x : Except Fault α) :
    Option.Rel Matrix4.Realizes ((some (x.map m)).bind Except.toOption)
      (x.toOption.bind fun x => some (f x)) := by
  cases x with
  | error => exact .none
  | ok x => exact .some (h x)

theorem realizes_matrixAt (i : Nat) :
    Option.Rel Matrix4.Realizes (p.matrixAt i) (p.motionAt i) := by
  cases hop : p.operations[i]? with
  | none =>
    simp only [matrixAt, motionAt, hop]
    exact .none
  | some op =>
    rw [matrixAt_eq hop]
    simp only [motionAt, hop, Option.bind_eq_bind, Option.bind_some]
    cases op with
    | move d knob => exact realizes_of_factor (fun x => Matrix4.realizes_shift (d.scale x)) _
    | scale d knob => exact realizes_of_factor (fun x => Matrix4.realizes_scaling (d.scale x)) _
    | rotate axis degrees knob =>
      exact realizes_of_factor (fun x => Matrix4.realizes_turn axis
        (Circular.cos (degrees * Circular.degree * x))
        (Circular.sin (degrees * Circular.degree * x))) _
    | _ => exact .none

theorem forall₂_filterMap {β γ ι : Type} {r : β → γ → Prop} {f : ι → Option β}
    {g : ι → Option γ} (h : ∀ i, Option.Rel r (f i) (g i)) (is : List ι) :
    List.Forall₂ r (is.filterMap f) (is.filterMap g) := by
  induction is with
  | nil => exact .nil
  | cons i is ih =>
    rw [List.filterMap_cons, List.filterMap_cons]
    have hi := h i
    generalize f i = x at hi ⊢
    generalize g i = y at hi ⊢
    cases hi with
    | some hr => exact .cons hr ih
    | none => exact ih

theorem realizes_matricesBefore (k : Nat) :
    List.Forall₂ Matrix4.Realizes (p.matricesBefore k) (p.motionsBefore k) := by
  refine forall₂_filterMap (fun i => ?_) _
  split
  · exact .none
  · exact realizes_matrixAt i

/-- **The current coordinate system takes a vertex to its image.** -/
theorem topBefore_apply (k : Nat) (v : Vec3 α) :
    (p.topBefore k).apply v.homogeneous = (p.imageBefore k v).homogeneous := by
  rw [topBefore, Matrix4.apply_foldl (realizes_matricesBefore k), Matrix4.apply_identity,
    imageBefore]

theorem placed_topBefore (k : Nat) (vertices : Array (Vec3 α)) :
    placed (p.topBefore k) vertices = vertices.map fun v => (p.imageBefore k v).homogeneous := by
  simp only [placed, topBefore_apply]

theorem isAffine_matrixAt {i : Nat} {m : Matrix4 α} (h : p.matrixAt i = some m) : m.IsAffine := by
  have hrel := realizes_matrixAt (p := p) i
  rw [h] at hrel
  generalize p.motionAt i = f at hrel
  cases hrel with
  | some hm => exact hm.affine

theorem isAffine_originAt (k : Nat) (l : Int) : (p.originAt k l).IsAffine := by
  refine Matrix4.IsAffine.foldl (fun m hm => ?_) Matrix4.isAffine_identity
  obtain ⟨i, -, hi⟩ := List.mem_filterMap.1 hm
  split at hi
  · exact isAffine_matrixAt hi
  · cases hi

theorem isAffine_stackBefore (k : Nat) : ∀ m ∈ (p.stackBefore k).entries, m.IsAffine := by
  simp only [OriginStack.entries, stackBefore, List.mem_cons, List.mem_map]
  rintro m (rfl | ⟨l, -, rfl⟩)
  · exact isAffine_originAt ..
  · exact isAffine_originAt ..

variable [Div α]

/-- Every matrix on the stack of a run that has come to its end or has stopped is affine. -/
theorem isAffine_run (h₀ : p.Stands before 0 s) :
    ∀ m ∈ (p.interpreter.run p.symbols p.operations s).state.frame.stack.entries,
      m.IsAffine := by
  rcases p.faultAt_cases p.operations.length with hok | ⟨k, -, f, hok, hf⟩
  · have hstands := (stands_run_take h₀ le_rfl hok).2
    rw [List.take_length] at hstands
    rw [hstands.stack]
    exact isAffine_stackBefore _
  · rw [(run_stops h₀ hok hf).2.2.2]
    exact isAffine_stackBefore _

end Performance

open Performance

variable {α σ : Type} [CommRing α] [Div α] [Circular α]

theorem Performance.stands_zero {s : Stage α σ} (hidle : s.frame.Idle)
    (hstack : s.frame.stack = .single .identity) (I : Interpreter α σ) (t : SymbolTable α)
    (ops : List (Operation α)) :
    (⟨I, t, ops, s.frame.index, s.frame.canvas, s.world⟩ : Performance α σ).Stands
      s.events.toList 0 s :=
  ⟨⟨rfl, hidle, rfl, rfl, by simp⟩, by rw [hstack, stackBefore_zero]⟩

/-- **A vertex is drawn where the transformations in scope take it.**  On a frame with nothing on
its stack but the identity and nothing waiting, every matrix that a run has on its stack at any
time has the last row of the identity.  A primitive that is reached hands its vertices to the
rasterizer, each one taken through the maps of the transformations in scope, the most recent one
first, and with the fourth coordinate one. -/
theorem Interpreter.vertices_of_run (I : Interpreter α σ) (t : SymbolTable α)
    (ops : List (Operation α)) (s : Stage α σ) (hidle : s.frame.Idle)
    (hstack : s.frame.stack = .single .identity) :
    let p : Performance α σ := ⟨I, t, ops, s.frame.index, s.frame.canvas, s.world⟩
    (∀ n, ∀ m ∈ (I.run t (ops.take n) s).state.frame.stack.entries, m.row3 = ⟨0, 0, 0, 1⟩) ∧
    ∀ k op vertices e, ops[k]? = some op → (I.run t (ops.take k) s).fault? = none →
      op.vertices? I.steps = some (.ok vertices) →
      I.request? t (vertices.map fun v => (p.imageBefore k v).homogeneous) op = some e →
      let reached := (I.run t (ops.take k) s).state
      let o := I.run t (ops.take (k + 1)) s
      o.fault? = (I.draw e reached.frame.canvas).fault? ∧
      o.state.frame.canvas = (I.draw e reached.frame.canvas).state ∧
      o.state.events.toList =
        reached.events.toList ++ [.step s.frame.index op, e].filter I.watches ∧
      Rasterizer.positions (vertices.map fun v => (p.imageBefore k v).homogeneous) =
        vertices.toList.map (p.imageBefore k) := by
  intro p
  have h₀ : p.Stands s.events.toList 0 s := stands_zero hidle hstack I t ops
  refine ⟨fun n => ?_, fun k op vertices e hop hreached hvertices he => ?_⟩
  · -- the operations up to `n` are a performance of their own
    exact isAffine_run (stands_zero hidle hstack I t (ops.take n))
  · have hk : k < ops.length := (List.getElem?_eq_some_iff.1 hop).1
    have hok := faultAt_of_run_take h₀ hk.le hreached
    obtain ⟨-, hstands⟩ := stands_run_take h₀ hk.le hok
    have hperformed := performed_execute hstands (soundBefore_of_faultAt hok) hop
    have hdrawing : p.drawing? (p.topBefore k) op = some (.ok e) := by
      refine drawing_of_vertices hvertices ?_
      rw [placed_topBefore]
      exact he
    obtain ⟨hfault, hcanvas, hevents⟩ := hperformed.drawn hstands hop hdrawing
    have hstep := run_take_succ (p := p) (s := s) hop
    rw [Outcome.andThen_of_none hreached] at hstep
    intro reached o
    rw [show o = I.execute t op reached from hstep]
    refine ⟨hfault, hcanvas, hevents, ?_⟩
    simp [Rasterizer.positions, Vec3.homogeneous, Vec4.cartesian, Function.comp_def]

/-- Whole numbers, in which every angle is a quarter of a turn. -/
@[reducible] def Circular.quarterTurns : Circular Int where
  pi := 0
  degree := 0
  cos _ := 0
  sin _ := 1

/-- A line that is turned before it is moved, as the move comes first in the sequence. -/
theorem Interpreter.vertices_of_run_turned_line :
    letI := Circular.quarterTurns
    let scene : Scene Int :=
      ⟨⟨0, 0, 1⟩, ⟨0, 0, 0⟩, ⟨⟨0, 0, 1⟩, ⟨0, 0, 0⟩⟩, .uniform ⟨1, 1, 1⟩, ⟨255, 255, 255⟩⟩
    let I : Interpreter Int Unit := ⟨.silent, .silent, scene, 3, fun _ => true⟩
    let t : SymbolTable Int := ⟨.ofList [("reach", 2)], .empty⟩
    let ops : List (Operation Int) := [.push, .move ⟨1, 0, 0⟩ (some "reach"), .rotate .z 90 none,
      .line ⟨1, 0, 0⟩ ⟨0, 0, 0⟩ none none none, .pop]
    let s : Stage Int Unit := ⟨⟨0, ⟨.solid 1 1 .black, #[0]⟩, .single .identity,
      .empty .polygons, .empty .edges⟩, #[], ()⟩
    s.frame.Idle ∧ s.frame.stack = .single .identity ∧ (I.run t (ops.take 3) s).fault? = none ∧
      (I.run t (ops.take 4) s).state.events.toList =
        (I.run t (ops.take 3) s).state.events.toList ++
          [.step 0 (.line ⟨1, 0, 0⟩ ⟨0, 0, 0⟩ none none none),
            .line #[⟨2, 1, 0, 1⟩, ⟨2, 0, 0, 1⟩]] := by
  let _ := Circular.quarterTurns
  intro scene I t ops s
  let p : Performance Int Unit := ⟨I, t, ops, s.frame.index, s.frame.canvas, s.world⟩
  have hidle : s.frame.Idle := ⟨rfl, rfl, rfl, rfl⟩
  have hreached : (I.run t (ops.take 3) s).fault? = none := rfl
  have hpoints : (#[⟨1, 0, 0⟩, ⟨0, 0, 0⟩].map fun v => (p.imageBefore 3 v).homogeneous) =
      #[⟨2, 1, 0, 1⟩, ⟨2, 0, 0, 1⟩] := by decide +kernel
  obtain ⟨-, h⟩ := I.vertices_of_run t ops s hidle rfl
  obtain ⟨-, -, hevents, -⟩ := h 3 (.line ⟨1, 0, 0⟩ ⟨0, 0, 0⟩ none none none)
    #[⟨1, 0, 0⟩, ⟨0, 0, 0⟩] (.line #[⟨2, 1, 0, 1⟩, ⟨2, 0, 0, 1⟩]) rfl hreached rfl
    (congrArg (fun points => some (Event.line points)) hpoints)
  exact ⟨hidle, rfl, hreached, hevents⟩

end Flipbook
