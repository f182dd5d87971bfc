import Flipbook.Proofs.BufferPoints
import Flipbook.Proofs.MeshSize
import Flipbook.Proofs.Outcome
import Flipbook.Proofs.Scope

/-!
# An interpreter does what the operations mean

A stage stands before position `k` of a performance (`Performance.Stands`) when its stack, its
canvas, the world and everything that has happened are those which the performance names, and no
geometry waits.  Carrying out the next operation leads to the position after it, or stops with the
fault that the performance names (`Performance.performed_execute`); what has been drawn, exported
and told is then that of the position after the operation all the same.  By induction a run leads
to every position before the first fault (`Performance.stands_run_take`) and stops there
(`Performance.run_stops`).
-/

namespace Flipbook

/-! ### Frames in which nothing waits -/

/-- No geometry waits to be drawn. -/
structure Frame.Idle {α : Type} (f : Frame α) : Prop where
  polygons_kind : f.polygons.kind = .polygons
  polygons_points : f.polygons.points = #[]
  edges_kind : f.edges.kind = .edges
  edges_points : f.edges.points = #[]

namespace Frame

variable {α : Type} [Zero α] [One α] [Farthest α]

theorem idle_blank (index : Int) (size : Nat) : (blank index size : Frame α).Idle :=
  ⟨rfl, rfl, rfl, rfl⟩

theorem Idle.reset {f : Frame α} (h : f.Idle) (index : Int) : (f.reset index).Idle :=
  ⟨h.polygons_kind, GeometryBuffer.points_clear, h.edges_kind, GeometryBuffer.points_clear⟩

end Frame

namespace GeometryBuffer

variable {α : Type} [Zero α] [One α] [Add α] [Mul α]

theorem addVertices_of_dvd {b : GeometryBuffer α} (hb : b.points = #[])
    (vertices : Array (Vec3 α)) (h : vertices.size % b.kind.stride = 0) (m : Matrix4 α) :
    ∃ b', b.addVertices vertices = .done b' ∧ b'.kind = b.kind ∧
      (b'.apply m).points = Performance.placed m vertices := by
  have hsize : (vertices.map Vec3.homogeneous).size % b.kind.stride = 0 := by
    rwa [Array.size_map]
  have hfits := fits_of_points_eq_empty hb
  obtain ⟨b', hadd, hfits', hkind, hpoints, -⟩ := hfits.append_of_dvd hsize
  refine ⟨b', hadd, hkind, ?_⟩
  rw [hfits'.points_apply, hpoints, hb]
  simp [Performance.placed, Function.comp_def]

end GeometryBuffer

namespace Interpreter

open Performance

variable {α σ : Type} (I : Interpreter α σ)

/-! ### What is kept and what is received -/

@[simp] theorem record_frame (e : Event α) (s : Stage α σ) : (I.record e s).frame = s.frame := by
  unfold record; split <;> rfl

@[simp] theorem record_world (e : Event α) (s : Stage α σ) : (I.record e s).world = s.world := by
  unfold record; split <;> rfl

theorem record_eq (e : Event α) (s : Stage α σ) :
    I.record e s = { I.record e s with frame := s.frame } := by
  unfold record; split <;> rfl

theorem record_events (e : Event α) (s : Stage α σ) :
    (I.record e s).events.toList = s.events.toList ++ [e].filter I.watches := by
  unfold record
  split
  · rename_i h; simp [h]
  · rename_i h; simp [h]

theorem foldl_record (ns : List Notice) (s : Stage α σ) :
    (ns.foldl (fun s n => I.record (.notice n) s) s).frame = s.frame ∧
      (ns.foldl (fun s n => I.record (.notice n) s) s).world = s.world ∧
      (ns.foldl (fun s n => I.record (.notice n) s) s).events.toList =
        s.events.toList ++ (ns.map Event.notice).filter I.watches := by
  induction ns generalizing s with
  | nil => simp
  | cons n ns ih =>
    obtain ⟨h1, h2, h3⟩ := ih (I.record (.notice n) s)
    rw [List.foldl_cons]
    refine ⟨h1.trans (I.record_frame ..), h2.trans (I.record_world ..), ?_⟩
    rw [h3, record_events, List.append_assoc, ← List.filter_append]
    rfl

theorem receive_spec (r : Report σ) (s : Stage α σ) :
    (I.receive r s).fault? = r.fault? ∧ (I.receive r s).state.frame = s.frame ∧
      (I.receive r s).state.world = r.world ∧
      (I.receive r s).state.events.toList =
        s.events.toList ++ (r.notices.map Event.notice).filter I.watches :=
  ⟨rfl, I.foldl_record r.notices { s with world := r.world }⟩

section Drawing

variable [Zero α] [One α] [Add α] [Mul α]

theorem drawPolygons_spec (c : Constants α) (mesh : Array (Vec3 α)) (hmesh : mesh.size % 3 = 0)
    {s : Stage α σ} (hidle : s.frame.Idle) :
    ∃ b : GeometryBuffer α, b.kind = .polygons ∧ b.points = #[] ∧
      I.drawPolygons c mesh s =
        (I.draw (.solid (placed s.frame.stack.top mesh) c) s.frame.canvas).map fun canvas =>
          { I.record (.solid (placed s.frame.stack.top mesh) c) s with
            frame := { s.frame with canvas, polygons := b } } := by
  obtain ⟨b, hadd, hkind, hplaced⟩ := GeometryBuffer.addVertices_of_dvd hidle.polygons_points
    mesh (by rw [hidle.polygons_kind]; exact hmesh) s.frame.stack.top
  refine ⟨(b.apply s.frame.stack.top).clear, hkind.trans hidle.polygons_kind,
    GeometryBuffer.points_clear, ?_⟩
  simp only [drawPolygons, drawSolid, hadd, Outcome.done, hplaced, record_frame, draw]

theorem drawEdges_spec (ends : Array (Vec3 α)) (hends : ends.size % 2 = 0) {s : Stage α σ}
    (hidle : s.frame.Idle) :
    ∃ b : GeometryBuffer α, b.kind = .edges ∧ b.points = #[] ∧
      I.drawEdges ends s =
        (I.draw (.line (placed s.frame.stack.top ends)) s.frame.canvas).map fun canvas =>
          { I.record (.line (placed s.frame.stack.top ends)) s with
            frame := { s.frame with canvas, edges := b } } := by
  obtain ⟨b, hadd, hkind, hplaced⟩ := GeometryBuffer.addVertices_of_dvd hidle.edges_points
    ends (by rw [hidle.edges_kind]; exact hends) s.frame.stack.top
  refine ⟨(b.apply s.frame.stack.top).clear, hkind.trans hidle.edges_kind,
    GeometryBuffer.points_clear, ?_⟩
  simp only [drawEdges, drawLine, hadd, Outcome.done, hplaced, record_frame, draw]

end Drawing

end Interpreter

namespace Performance

open Nesting Interpreter

variable {α σ : Type} [Zero α] [One α] [Add α] [Mul α] [Neg α] [Div α] [NatCast α] [Circular α]
variable (p : Performance α σ) (before : List (Event α))

/-- The stage shows what everything before `k` has left behind, after the events `before`. -/
structure Shown (k : Nat) (s : Stage α σ) : Prop where
  index : s.frame.index = p.index
  idle : s.frame.Idle
  canvas : s.frame.canvas = p.canvasBefore k
  world : s.world = p.worldBefore k
  events : s.events.toList = before ++ (p.toldBefore k).filter p.interpreter.watches

/-- The stage is ready for the operation at `k`. -/
structure Stands (k : Nat) (s : Stage α σ) : Prop extends p.Shown before k s where
  stack : s.frame.stack = p.stackBefore k

/-- The operation at `k` has come out as it should: with the fault that the performance names and
with everything shown, and the stack has changed unless there is a fault. -/
structure Performed (k : Nat) (o : Outcome (Stage α σ)) : Prop where
  fault : o.fault? = p.faultAt k
  shown : p.Shown before (k + 1) o.state
  stack : o.state.frame.stack =
    if (p.faultAt k).isNone then p.stackBefore (k + 1) else p.stackBefore k

variable {p before} {k : Nat} {op : Operation α} {s : Stage α σ}

/-! ### Calls, canvas and faults at a position -/

theorem canvasBefore_succ_of_call {e : Event α} (h : p.callAt k = some e) :
    p.canvasBefore (k + 1) = (p.interpreter.draw e (p.canvasBefore k)).state := by
  rw [canvasBefore_succ]
  unfold callAt at h
  split at h
  · rename_i hop
    rw [drawAt_eq hop, ← Option.some.inj h]
    rfl
  · rename_i hop
    rw [drawAt_eq hop, ← Option.some.inj h]
    rfl
  · rw [h]

theorem canvasBefore_succ_of_quiet (h : p.callAt k = none) :
    p.canvasBefore (k + 1) = p.canvasBefore k := by
  rw [canvasBefore_succ]
  unfold callAt at h
  split at h
  · cases h
  · cases h
  · rw [h]

theorem refusalAt_of_call {e : Event α} (h : p.callAt k = some e) : p.refusalAt k = none := by
  cases hop : p.operations[k]? with
  | none => simp [callAt, drawAt, hop] at h
  | some op =>
    cases op with
    | save | display => simp [refusalAt, hop, matrix?, drawing?]
    | box | sphere | torus | line =>
      simp only [callAt, hop, drawAt_eq hop] at h
      simp [refusalAt, hop, matrix?, eq_ok_of_bind_toOption h]
    | _ => simp [callAt, hop, drawAt, drawing?] at h

theorem faultAt_of_call {e : Event α} (h : p.callAt k = some e) :
    p.faultAt k = (p.interpreter.draw e (p.canvasBefore k)).fault?.or
      (p.interpreter.handOver e (p.worldBefore k)).fault? := by
  rw [faultAt, refusalAt_of_call h, h, Option.none_or, Option.bind_some]

theorem faultAt_of_quiet (h : p.callAt k = none) : p.faultAt k = p.refusalAt k := by
  rw [faultAt, h, Option.bind_none, Option.or_none]

/-! ### What is shown after a step -/

theorem Shown.events_step (h : p.Shown before k s) (hop : p.operations[k]? = some op) :
    (p.interpreter.record (.step s.frame.index op) s).events.toList ++
        ((p.callAt k).toList ++ p.answersAt k).filter p.interpreter.watches =
      before ++ (p.toldBefore (k + 1)).filter p.interpreter.watches := by
  have htold : p.toldAt k = [.step p.index op] ++ ((p.callAt k).toList ++ p.answersAt k) := by
    simp only [toldAt, hop, List.singleton_append]
  rw [record_events, h.events, h.index, toldBefore_succ, htold, List.filter_append (p.toldBefore k),
    List.filter_append [_], List.append_assoc, List.append_assoc]

/-- After an operation that calls nobody everything is shown, whatever the stack has become. -/
theorem Shown.quiet (h : p.Shown before k s) (hop : p.operations[k]? = some op)
    (hcall : p.callAt k = none) (stack : OriginStack (Matrix4 α)) :
    p.Shown before (k + 1)
      { p.interpreter.record (.step s.frame.index op) s with frame := { s.frame with stack } } where
  index := h.index
  idle := ⟨h.idle.polygons_kind, h.idle.polygons_points, h.idle.edges_kind, h.idle.edges_points⟩
  canvas := h.canvas.trans (canvasBefore_succ_of_quiet hcall).symm
  world := by rw [worldBefore_succ, hcall]; exact (record_world ..).trans h.world
  events := by
    rw [← h.events_step hop, answersAt, hcall]
    simp

/-- After an operation that calls somebody everything is shown, once the call has changed the
canvas and the world and what is told about it has been kept. -/
theorem Shown.call (h : p.Shown before k s) (hop : p.operations[k]? = some op) {e : Event α}
    (hcall : p.callAt k = some e) {s' : Stage α σ} (hindex : s'.frame.index = s.frame.index)
    (hidle : s'.frame.Idle)
    (hcanvas : s'.frame.canvas = (p.interpreter.draw e s.frame.canvas).state)
    (hworld : s'.world = (p.interpreter.handOver e s.world).world)
    (hevents : s'.events.toList =
      (p.interpreter.record e (p.interpreter.record (.step s.frame.index op) s)).events.toList ++
        ((p.interpreter.handOver e s.world).notices.map Event.notice).filter
          p.interpreter.watches) :
    p.Shown before (k + 1) s' where
  index := hindex.trans h.index
  idle := hidle
  canvas := by rw [hcanvas, h.canvas, canvasBefore_succ_of_call hcall]
  world := by rw [hworld, h.world, worldBefore_succ, hcall]
  events := by
    rw [hevents, record_events, ← h.events_step hop, answersAt, hcall, h.world, List.append_assoc,
      ← List.filter_append]
    simp

/-! ### One step -/

theorem stackBefore_succ_of_call {e : Event α} (h : p.callAt k = some e) :
    p.stackBefore (k + 1) = p.stackBefore k := by
  cases hop : p.operations[k]? with
  | none => simp [callAt, drawAt, hop] at h
  | some op =>
    have hm := matrixAt_eq hop
    cases op with
    | save | display | box | sphere | torus | line =>
      rw [stackBefore_succ_of_neither hop rfl rfl, hm]
      rfl
    | _ => simp [callAt, hop, drawAt, drawing?] at h

theorem Shown.performed (h : p.Shown before k s) (hop : p.operations[k]? = some op)
    (hcall : p.callAt k = none) {o : Outcome (Stage α σ)} (hfault : o.fault? = p.refusalAt k)
    (stack : OriginStack (Matrix4 α))
    (hstate : o.state = { p.interpreter.record (.step s.frame.index op) s with
      frame := { s.frame with stack } })
    (hstack : stack =
      if (p.refusalAt k).isNone then p.stackBefore (k + 1) else p.stackBefore k) :
    p.Performed before k o where
  fault := hfault.trans (faultAt_of_quiet hcall).symm
  shown := hstate ▸ h.quiet hop hcall stack
  stack := by rw [hstate, faultAt_of_quiet hcall]; exact hstack

/-- What is refused leaves everything but the record of it as it is. -/
theorem Stands.refused (h : p.Stands before k s) (hop : p.operations[k]? = some op)
    (hcall : p.callAt k = none) {f : Fault} (hrefusal : p.refusalAt k = some f) :
    p.Performed before k (.failed (p.interpreter.record (.step s.frame.index op) s) f) := by
  refine h.toShown.performed hop hcall hrefusal.symm s.frame.stack ?_ ?_
  · exact record_eq ..
  · rw [hrefusal, h.stack]
    rfl

theorem performed_push (h : p.Stands before k s) (hs : SoundBefore p.operations k)
    (hop : p.operations[k]? = some .push) :
    p.Performed before k (p.interpreter.execute p.symbols .push s) := by
  have hcall : p.callAt k = none := by simp [callAt, hop, drawAt, drawing?]
  have hrefusal : p.refusalAt k = none := by simp [refusalAt, hop, matrix?, drawing?]
  refine h.toShown.performed hop hcall hrefusal.symm s.frame.stack.push ?_ ?_
  · simp only [execute, perform, Outcome.done_state, record_frame]
  · rw [hrefusal, h.stack, ← stackBefore_succ_of_push hs hop]
    rfl

theorem refusalAt_of_pop (hop : p.operations[k]? = some .pop) :
    p.refusalAt k = if pushes (p.operations.take k) ≤ pops (p.operations.take k)
      then some (.stackUnderflow 1) else none := by
  rw [refusalAt, hop]

theorem performed_pop (h : p.Stands before k s) (hs : SoundBefore p.operations k)
    (hop : p.operations[k]? = some .pop) :
    p.Performed before k (p.interpreter.execute p.symbols .pop s) := by
  have hcall : p.callAt k = none := by simp [callAt, hop, drawAt, drawing?]
  have hrefusal := refusalAt_of_pop hop
  by_cases hle : pushes (p.operations.take k) ≤ pops (p.operations.take k)
  · -- only the outermost system is left, and it stays
    rw [if_pos hle] at hrefusal
    have hbelow := below_stackBefore (p := p) (k := k) (by unfold level; omega)
    have hexec : p.interpreter.execute p.symbols .pop s =
        .failed (p.interpreter.record (.step s.frame.index .pop) s) (.stackUnderflow 1) := by
      simp only [execute, perform, leave, OriginStack.pop?, OriginStack.depth, record_frame,
        h.stack, hbelow, List.length_nil, Nat.zero_add]
    rw [hexec]
    exact h.refused hop hcall hrefusal
  · -- the system that is left lies on top of others
    rw [if_neg hle] at hrefusal
    have hsound : SoundBefore p.operations (k + 1) :=
      soundBefore_succ_iff.2 ⟨hs, by rw [level_succ_of_pop hop]; unfold level; omega⟩
    have hexec : p.interpreter.execute p.symbols .pop s =
        .done { p.interpreter.record (.step s.frame.index .pop) s with
          frame := { s.frame with stack := p.stackBefore (k + 1) } } := by
      simp only [execute, perform, leave, record_frame, h.stack, pop?_stackBefore hsound hop]
    rw [hexec]
    refine h.toShown.performed hop hcall hrefusal.symm _ rfl ?_
    rw [hrefusal]
    rfl

theorem performed_transform (h : p.Stands before k s) (hop : p.operations[k]? = some op)
    {m : Except Fault (Matrix4 α)} (hm : p.matrix? op = some m)
    (hexec : ∀ s : Stage α σ, p.interpreter.perform p.symbols op s = transform m s) :
    p.Performed before k (p.interpreter.execute p.symbols op s) := by
  have hcall : p.callAt k = none := by
    cases op <;> simp_all [callAt, drawAt, drawing?, matrix?]
  have hbracket : op.isPush = false ∧ op.isPop = false := by
    cases op <;> simp_all [matrix?, Operation.isPush, Operation.isPop]
  have hstack := stackBefore_succ_of_neither hop hbracket.1 hbracket.2
  rw [matrixAt_eq hop, hm] at hstack
  rw [execute, hexec]
  cases m with
  | error f =>
    have hrefusal : p.refusalAt k = some f := by
      cases op <;> simp_all [refusalAt, matrix?]
    exact h.refused hop hcall hrefusal
  | ok m =>
    have hrefusal : p.refusalAt k = none := by
      cases op <;> simp_all [refusalAt, matrix?, drawing?]
    refine h.toShown.performed hop hcall hrefusal.symm (s.frame.stack.transform m) ?_ ?_
    · simp only [transform, Outcome.done_state, record_frame]
    · rw [hrefusal, h.stack]
      exact hstack.symm

theorem performed_still (h : p.Stands before k s) (hop : p.operations[k]? = some op)
    (hcall : p.callAt k = none) (hrefusal : p.refusalAt k = none)
    (hstack : p.stackBefore (k + 1) = p.stackBefore k)
    (hexec : ∀ s : Stage α σ, p.interpreter.perform p.symbols op s = .done s) :
    p.Performed before k (p.interpreter.execute p.symbols op s) := by
  rw [execute, hexec]
  refine h.toShown.performed hop hcall hrefusal.symm s.frame.stack ?_ ?_
  · exact record_eq ..
  · rw [hrefusal, h.stack]
    exact hstack.symm

/-- What a call draws is drawn by the rasterizer, and the frame is idle again. -/
theorem performed_draw (h : p.Stands before k s) (hop : p.operations[k]? = some op)
    {e : Event α} (hcall : p.callAt k = some e)
    (hquiet : ∀ w, p.interpreter.handOver e w = { world := w }) (next : Canvas α → Frame α)
    (hnext : ∀ c, (next c).index = s.frame.index ∧ (next c).stack = s.frame.stack ∧
      (next c).canvas = c ∧ (next c).Idle) :
    p.Performed before k ((p.interpreter.draw e s.frame.canvas).map fun canvas =>
      { p.interpreter.record e (p.interpreter.record (.step s.frame.index op) s) with
        frame := next canvas }) where
  fault := by
    rw [faultAt_of_call hcall, hquiet, Outcome.map_fault, h.canvas, Option.or_none]
  shown := by
    obtain ⟨hindex, -, hcanvas, hidle⟩ := hnext (p.interpreter.draw e s.frame.canvas).state
    refine h.toShown.call hop hcall hindex hidle hcanvas ?_ ?_
    · rw [hquiet, Outcome.map_state, record_world, record_world]
    · rw [hquiet, Outcome.map_state, List.map_nil, List.filter_nil, List.append_nil]
  stack := by
    rw [stackBefore_succ_of_call hcall, ite_self, Outcome.map_state]
    exact (hnext _).2.1.trans h.stack

theorem performed_export (h : p.Stands before k s) (hop : p.operations[k]? = some op)
    {e : Event α} (hcall : p.callAt k = some e) (hquiet : ∀ c, p.interpreter.draw e c = .done c) :
    p.Performed before k (p.interpreter.receive (p.interpreter.handOver e s.world)
      (p.interpreter.record e (p.interpreter.record (.step s.frame.index op) s))) := by
  obtain ⟨hfault, hframe, hworld, hevents⟩ := p.interpreter.receive_spec
    (p.interpreter.handOver e s.world)
    (p.interpreter.record e (p.interpreter.record (.step s.frame.index op) s))
  rw [record_frame, record_frame] at hframe
  refine ⟨?_, ?_, ?_⟩
  · rw [faultAt_of_call hcall, hquiet, hfault, h.world]
    rfl
  · exact h.toShown.call hop hcall (by rw [hframe]) (by rw [hframe]; exact h.idle)
      (by rw [hframe, hquiet]; rfl) hworld hevents
  · rw [stackBefore_succ_of_call hcall, ite_self, hframe, h.stack]

theorem performed_save (h : p.Stands before k s) {filename : String}
    (hop : p.operations[k]? = some (.save filename)) :
    p.Performed before k (p.interpreter.execute p.symbols (.save filename) s) := by
  have hcall : p.callAt k = some (.save s.frame.canvas.picture filename) := by
    rw [callAt, hop, h.canvas]
  have := performed_export h hop hcall fun _ => rfl
  simpa only [execute, perform, save, record_frame, record_world, handOver] using this

theorem performed_display (h : p.Stands before k s) (hop : p.operations[k]? = some .display) :
    p.Performed before k (p.interpreter.execute p.symbols .display s) := by
  have hcall : p.callAt k = some (.display s.frame.canvas.picture) := by
    rw [callAt, hop, h.canvas]
  have := performed_export h hop hcall fun _ => rfl
  simpa only [execute, perform, record_frame, record_world, handOver] using this

theorem callAt_eq_drawAt (hop : p.operations[k]? = some op) {top : Matrix4 α}
    {x : Except Fault (Event α)} (hx : p.drawing? top op = some x) : p.callAt k = p.drawAt k := by
  cases op <;> simp_all [callAt, drawing?]

theorem performed_line (h : p.Stands before k s) (hs : SoundBefore p.operations k)
    {start stop : Vec3 α} {name startSystem stopSystem : Option String}
    (hop : p.operations[k]? = some (.line start stop name startSystem stopSystem)) :
    p.Performed before k
      (p.interpreter.execute p.symbols (.line start stop name startSystem stopSystem) s) := by
  have htop : s.frame.stack.top = p.topBefore k := by rw [h.stack, top_stackBefore hs]
  have hdrawing : p.drawing? (p.topBefore k)
      (.line start stop name startSystem stopSystem) =
        some (.ok (.line (placed (p.topBefore k) #[start, stop]))) := rfl
  have hcall : p.callAt k = some (.line (placed s.frame.stack.top #[start, stop])) := by
    rw [callAt_eq_drawAt hop hdrawing, drawAt_eq hop, hdrawing, htop]
    rfl
  rw [execute]
  generalize hrec : p.interpreter.record (.step s.frame.index _) s = s₁
  have hframe : s₁.frame = s.frame := hrec ▸ record_frame ..
  obtain ⟨b, hkind, hpoints, hdraw⟩ := p.interpreter.drawEdges_spec #[start, stop] (by simp)
    (s := s₁) (by rw [hframe]; exact h.idle)
  have := performed_draw h hop hcall (fun _ => rfl)
    (fun canvas => { s.frame with canvas, edges := b })
    fun c => ⟨rfl, rfl, rfl, h.idle.polygons_kind, h.idle.polygons_points, hkind, hpoints⟩
  rw [perform, hdraw, hframe]
  rwa [hrec] at this

theorem Stands.refused_drawing (h : p.Stands before k s) (hop : p.operations[k]? = some op)
    {f : Fault} (hf : p.drawing? (p.topBefore k) op = some (.error f)) :
    p.Performed before k (.failed (p.interpreter.record (.step s.frame.index op) s) f) := by
  have hcall : p.callAt k = none := by
    rw [callAt_eq_drawAt hop hf, drawAt_eq hop, hf]
    rfl
  have hrefusal : p.refusalAt k = some f := by
    cases op <;> simp_all [refusalAt, matrix?, drawing?]
  exact h.refused hop hcall hrefusal

theorem Stands.drawn_polygons (h : p.Stands before k s) (hop : p.operations[k]? = some op)
    {c : Constants α} {mesh : Array (Vec3 α)} (hmesh : mesh.size % 3 = 0)
    (hcall : p.callAt k = some (.solid (placed s.frame.stack.top mesh) c)) :
    p.Performed before k
      (p.interpreter.drawPolygons c mesh (p.interpreter.record (.step s.frame.index op) s)) := by
  generalize hrec : p.interpreter.record (.step s.frame.index op) s = s₁
  have hframe : s₁.frame = s.frame := hrec ▸ record_frame ..
  obtain ⟨b, hkind, hpoints, hdraw⟩ := p.interpreter.drawPolygons_spec c mesh hmesh
    (s := s₁) (by rw [hframe]; exact h.idle)
  have := performed_draw h hop hcall (fun _ => rfl)
    (fun canvas => { s.frame with canvas, polygons := b })
    fun c => ⟨rfl, rfl, rfl, hkind, hpoints, h.idle.edges_kind, h.idle.edges_points⟩
  rw [hdraw, hframe]
  rwa [hrec] at this

theorem performed_shape (h : p.Stands before k s) (hs : SoundBefore p.operations k)
    (hop : p.operations[k]? = some op) {name : Option String}
    {mesh : Except GeometryFault (Array (Vec3 α))}
    (hsize : ∀ m, mesh = .ok m → m.size % 3 = 0)
    (hdrawing : ∀ top, p.drawing? top op = some do
      let c ← p.interpreter.material p.symbols name
      let m ← Fault.ofGeometry mesh
      return .solid (placed top m) c)
    (hexec : ∀ s : Stage α σ, p.interpreter.perform p.symbols op s =
      p.interpreter.drawShape p.symbols name mesh s) :
    p.Performed before k (p.interpreter.execute p.symbols op s) := by
  have htop : s.frame.stack.top = p.topBefore k := by rw [h.stack, top_stackBefore hs]
  rw [execute, hexec]
  unfold drawShape
  cases hc : p.interpreter.material p.symbols name with
  | error f => exact h.refused_drawing hop (by rw [hdrawing, hc]; rfl)
  | ok c =>
    cases mesh with
    | error g =>
      exact h.refused_drawing hop (f := (Fault.geometry g).raised) (by rw [hdrawing, hc]; rfl)
    | ok m =>
      have hcall : p.callAt k = some (.solid (placed s.frame.stack.top m) c) := by
        rw [callAt_eq_drawAt hop (hdrawing (p.topBefore k)), drawAt_eq hop, hdrawing, hc, htop]
        rfl
      exact h.drawn_polygons hop (hsize m rfl) hcall

theorem ofGeometry_map_bind {β γ δ : Type} (x : Except GeometryFault β) (f : β → γ)
    (g : γ → Except Fault δ) :
    (Fault.ofGeometry (x.map f) >>= g) = Fault.ofGeometry x >>= fun b => g (f b) := by
  cases x <;> rfl

/-- **The operation at a position comes out as it should.** -/
theorem performed_execute (h : p.Stands before k s) (hs : SoundBefore p.operations k)
    (hop : p.operations[k]? = some op) :
    p.Performed before k (p.interpreter.execute p.symbols op s) := by
  cases op with
  | frames | basename | vary =>
    refine performed_still h hop ?_ ?_ ?_ fun _ => rfl
    · simp [callAt, hop, drawAt, drawing?]
    · simp [refusalAt, hop, matrix?, drawing?]
    · rw [stackBefore_succ_of_neither hop rfl rfl, matrixAt_eq hop]
      rfl
  | push => exact performed_push h hs hop
  | pop => exact performed_pop h hs hop
  | move | scale | rotate => exact performed_transform h hop rfl fun _ => rfl
  | box corner extent name system =>
    refine performed_shape h hs hop ?_ (fun _ => rfl) fun _ => rfl
    rintro m ⟨⟩
    rw [Mesh.size_box]
  | sphere centre radius name system =>
    refine performed_shape h hs hop ?_ (fun top => ?_) fun _ => rfl
    · intro m hm
      obtain ⟨n, -, rfl⟩ := exists_of_map_eq_ok hm
      exact Mesh.size_sphere ..
    · simp only [ofGeometry_map_bind]
      rfl
  | torus centre tube ring name system =>
    refine performed_shape h hs hop ?_ (fun top => ?_) fun _ => rfl
    · intro m hm
      obtain ⟨n, -, rfl⟩ := exists_of_map_eq_ok hm
      exact Mesh.size_torus ..
    · simp only [ofGeometry_map_bind]
      rfl
  | line => exact performed_line h hs hop
  | save => exact performed_save h hop
  | display => exact performed_display h hop

/-! ### Runs -/

theorem run_take_succ (hop : p.operations[k]? = some op) :
    p.interpreter.run p.symbols (p.operations.take (k + 1)) s =
      (p.interpreter.run p.symbols (p.operations.take k) s).andThen
        (p.interpreter.execute p.symbols op) :=
  Outcome.sequence_take_succ hop s

theorem soundBefore_of_faultAt (hok : ∀ i < k, p.faultAt i = none) :
    SoundBefore p.operations k := by
  induction k with
  | zero => exact soundBefore_zero
  | succ k ih =>
    have hs := ih fun i hi => hok i (by omega)
    refine soundBefore_succ_iff.2 ⟨hs, ?_⟩
    have hopen := soundBefore_iff.1 hs k le_rfl
    -- an exit too many at `k` would have been refused there
    by_contra hlt
    have hop : p.operations[k]? = some .pop := pop_of_lt_level (by omega)
    have hlevel := level_succ_of_pop hop
    have hle : pushes (p.operations.take k) ≤ pops (p.operations.take k) := by
      rw [hlevel] at hlt; unfold level at hlt; omega
    have hrefusal := (Option.or_eq_none_iff.1 (hok k (by omega))).1
    rw [refusalAt_of_pop hop, if_pos hle] at hrefusal
    cases hrefusal

/-- **A run leads to every position before the first fault.** -/
theorem stands_run_take (h₀ : p.Stands before 0 s) (hk : k ≤ p.operations.length)
    (hok : ∀ i < k, p.faultAt i = none) :
    (p.interpreter.run p.symbols (p.operations.take k) s).fault? = none ∧
      p.Stands before k (p.interpreter.run p.symbols (p.operations.take k) s).state := by
  induction k with
  | zero => exact ⟨rfl, h₀⟩
  | succ k ih =>
    -- the step from `k` needs the stack of `k`, and that needs sound brackets up to `k`
    obtain ⟨hfault, hstands⟩ := ih (by omega) fun i hi => hok i (by omega)
    have hop : p.operations[k]? = some p.operations[k] := List.getElem?_eq_getElem hk
    have hs := soundBefore_of_faultAt fun i hi => hok i (Nat.lt_succ_of_lt hi)
    have hdone := performed_execute hstands hs hop
    rw [run_take_succ hop, Outcome.andThen_of_none hfault]
    refine ⟨hdone.fault.trans (hok k (by omega)), hdone.shown, ?_⟩
    rw [hdone.stack, hok k (by omega)]
    rfl

/-- **A run stops at the first fault**, with everything drawn, exported and told up to there. -/
theorem run_stops (h₀ : p.Stands before 0 s) (hok : ∀ i < k, p.faultAt i = none) {f : Fault}
    (hf : p.faultAt k = some f) :
    p.interpreter.run p.symbols p.operations s =
        p.interpreter.run p.symbols (p.operations.take (k + 1)) s ∧
      (p.interpreter.run p.symbols p.operations s).fault? = some f ∧
      p.Shown before (k + 1) (p.interpreter.run p.symbols p.operations s).state ∧
      (p.interpreter.run p.symbols p.operations s).state.frame.stack = p.stackBefore k := by
  -- only where an operation stands can there be a fault
  obtain ⟨op, hop⟩ : ∃ op, p.operations[k]? = some op := by
    cases hop : p.operations[k]? with
    | none => simp [faultAt, refusalAt, callAt, drawAt, hop] at hf
    | some op => exact ⟨op, rfl⟩
  have hk : k < p.operations.length := (List.getElem?_eq_some_iff.1 hop).1
  obtain ⟨hfault, hstands⟩ := stands_run_take h₀ hk.le hok
  have hdone := performed_execute hstands (soundBefore_of_faultAt hok) hop
  have hrun : p.interpreter.run p.symbols p.operations s = p.interpreter.execute p.symbols op
      (p.interpreter.run p.symbols (p.operations.take k) s).state :=
    Outcome.sequence_of_stop hop hfault (hdone.fault.trans hf)
  refine ⟨?_, ?_, ?_, ?_⟩
  · rw [hrun, run_take_succ hop, Outcome.andThen_of_none hfault]
  · rw [hrun, hdone.fault, hf]
  · rw [hrun]; exact hdone.shown
  · rw [hrun, hdone.stack, hf]; rfl

/-- Either no operation stops, or there is a first one that does. -/
theorem faultAt_cases (p : Performance α σ) (n : Nat) :
    (∀ i < n, p.faultAt i = none) ∨
      ∃ k < n, ∃ f, (∀ i < k, p.faultAt i = none) ∧ p.faultAt k = some f := by
  rcases Outcome.forall_or_first (fun i => p.faultAt i = none) n with hok | ⟨k, hk, hok, hf⟩
  · exact .inl hok
  · obtain ⟨f, hf⟩ := Option.ne_none_iff_exists'.1 hf
    exact .inr ⟨k, hk, f, hok, hf⟩

end Performance

end Flipbook
