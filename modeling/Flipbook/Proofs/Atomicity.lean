import Flipbook.Proofs.BufferCalls
import Flipbook.Proofs.ScopedRun
import Flipbook.Stage.Session

/-!
# What stops changes nothing

Whatever an interpreter is given to carry out does one of three things to the frame, and the
rasterizer has no say in which of them it is (`Interpreter.Effect`): it leaves the frame as it is,
it puts another stack in place, or it asks for one drawing and leaves the buffers empty behind it.
The second of them never stops, and the third only when the drawing does.  Hence what stops leaves
the frame as it was, unless the rasterizer is to blame; and then the stack is as it was all the same
(`Session.attempt_atomic`).  The reasons for which something is refused before anything is drawn are
listed (`Session.Refused`), and the rasterizer is to blame for none of them.

That no buffer holds anything between two operations is what carries the induction: a shape is then
added as a whole or not at all (`GeometryBuffer.Answers`), and what has been added is cleared by the
drawing that follows.
-/

namespace Flipbook

open GeometryBuffer

namespace Frame

variable {f : Frame Float}

theorem Idle.sound_polygons (h : f.Idle) : f.polygons.Sound where
  fits := fits_of_points_eq_empty h.polygons_points
  whole := count_of_points_eq_empty h.polygons_points ▸ Nat.dvd_zero _

theorem Idle.sound_edges (h : f.Idle) : f.edges.Sound where
  fits := fits_of_points_eq_empty h.edges_points
  whole := count_of_points_eq_empty h.edges_points ▸ Nat.dvd_zero _

end Frame

namespace Interpreter

/-- What is done to a frame, before the rasterizer is asked anything. -/
inductive Effect
  /-- The frame stays as it is. -/
  | still (fault? : Option Fault)
  /-- The frame gets another stack. -/
  | moved (stack : OriginStack (Matrix4 Float))
  /-- A drawing is asked for, and the buffers are left behind. -/
  | drew (e : Event Float) (polygons edges : GeometryBuffer Float)

variable {σ : Type} (I : Interpreter Float σ)

/-- The interpreter with another rasterizer. -/
def withRasterizer (R : Rasterizer Float) : Interpreter Float σ := { I with rasterizer := R }

namespace Effect

/-- What comes out of an effect on a frame. -/
def on (frame : Frame Float) : Effect → Outcome (Frame Float)
  | still fault? => { state := frame, fault? }
  | moved stack => .done { frame with stack }
  | drew e polygons edges =>
    (I.draw e frame.canvas).map fun canvas => { frame with canvas, polygons, edges }

/-- Nothing waits to be drawn after the effect. -/
def Tidy (frame : Frame Float) : Effect → Prop
  | drew _ polygons edges => { frame with polygons, edges : Frame Float }.Idle
  | _ => frame.Idle

variable {frame : Frame Float} {E : Effect}

theorem Tidy.idle (h : E.Tidy frame) : (E.on I frame).state.Idle := by
  cases E with
  | still | moved | drew =>
    exact ⟨h.polygons_kind, h.polygons_points, h.edges_kind, h.edges_points⟩

end Effect

/-- What is done has a single effect, which is the same whichever rasterizer there is. -/
def Acts (frame : Frame Float) (act : Rasterizer Float → Outcome (Stage Float σ)) : Prop :=
  ∃ E : Effect, E.Tidy frame ∧
    ∀ R, (act R).map Stage.frame = E.on (I.withRasterizer R) frame

variable {I} {s : Stage Float σ} {symbols : SymbolTable Float}

section Acts

theorem acts_still (h : s.frame.Idle) {o : Outcome (Stage Float σ)}
    (ho : o.state.frame = s.frame) : I.Acts s.frame fun _ => o :=
  ⟨.still o.fault?, h, fun _ => congrArg (Outcome.mk · o.fault?) ho⟩

theorem acts_moved (h : s.frame.Idle) (stack : OriginStack (Matrix4 Float)) :
    I.Acts s.frame fun _ => .done { s with frame := { s.frame with stack } } :=
  ⟨.moved stack, h, fun _ => rfl⟩

theorem acts_transform (h : s.frame.Idle) (m : Except Fault (Matrix4 Float)) :
    I.Acts s.frame fun _ => transform m s := by
  cases m with
  | error f => exact acts_still h rfl
  | ok m => exact acts_moved h _

theorem acts_given {β : Type} (h : s.frame.Idle) {x : Except Fault β}
    {next : Rasterizer Float → β → Outcome (Stage Float σ)}
    (hnext : ∀ b, I.Acts s.frame fun R => next R b) :
    I.Acts s.frame fun R => .given s x (next R) := by
  cases x with
  | error f => exact acts_still h rfl
  | ok b => exact hnext b

/-- What adds triangles or is refused, is followed by a drawing or by nothing. -/
theorem acts_drawSolid (h : s.frame.Idle) (c : Constants Float)
    {added : Outcome (GeometryBuffer Float)} {ps : Option (List (Vec4 Float))}
    (hadded : s.frame.polygons.Answers added ps) :
    I.Acts s.frame fun R => (I.withRasterizer R).drawSolid c added s := by
  cases ps with
  | none =>
    obtain ⟨f, rfl⟩ := hadded
    exact acts_still h rfl
  | some ps =>
    -- nothing but the canvas is left open when the rasterizer is asked
    obtain ⟨buffer, fault?⟩ := added
    obtain ⟨rfl, -, hkind, -, -⟩ := hadded
    refine ⟨.drew (.solid (buffer.apply s.frame.stack.top).points c)
      (buffer.apply s.frame.stack.top).clear s.frame.edges,
      ⟨hkind.trans h.polygons_kind, points_clear, h.edges_kind, h.edges_points⟩, fun R => ?_⟩
    simp only [drawSolid, record_frame]
    rfl

theorem acts_drawLine (h : s.frame.Idle) {added : Outcome (GeometryBuffer Float)}
    {ps : Option (List (Vec4 Float))} (hadded : s.frame.edges.Answers added ps) :
    I.Acts s.frame fun R => (I.withRasterizer R).drawLine added s := by
  cases ps with
  | none =>
    obtain ⟨f, rfl⟩ := hadded
    exact acts_still h rfl
  | some ps =>
    obtain ⟨buffer, fault?⟩ := added
    obtain ⟨rfl, -, hkind, -, -⟩ := hadded
    refine ⟨.drew (.line (buffer.apply s.frame.stack.top).points) s.frame.polygons
      (buffer.apply s.frame.stack.top).clear,
      ⟨h.polygons_kind, h.polygons_points, hkind.trans h.edges_kind, points_clear⟩, fun R => ?_⟩
    simp only [drawLine, record_frame]
    rfl

theorem fault_drawSolid {c : Constants Float} {added : Outcome (GeometryBuffer Float)} {f : Fault}
    (h : added.fault? = some f) : (I.drawSolid c added s).fault? = some f := by
  obtain ⟨buffer, fault?⟩ := added
  cases h
  rfl

theorem fault_drawLine {added : Outcome (GeometryBuffer Float)} {f : Fault}
    (h : added.fault? = some f) : (I.drawLine added s).fault? = some f := by
  obtain ⟨buffer, fault?⟩ := added
  cases h
  rfl

theorem stack_drawLine (I : Interpreter Float σ) (added : Outcome (GeometryBuffer Float))
    (s : Stage Float σ) : (I.drawLine added s).state.frame.stack = s.frame.stack := by
  unfold drawLine
  split
  · rfl
  · simp only [Outcome.map_state, record_frame]

theorem acts_drawShape (h : s.frame.Idle) (name : Option String)
    (mesh : Except GeometryFault (Array (Vec3 Float))) :
    I.Acts s.frame fun R => (I.withRasterizer R).drawShape symbols name mesh s := by
  have hmaterial (R : Rasterizer Float) :
      (I.withRasterizer R).material symbols name = I.material symbols name := rfl
  simp only [drawShape, hmaterial]
  cases I.material symbols name with
  | error f => exact acts_still h rfl
  | ok c =>
    cases mesh with
    | error f => exact acts_still h rfl
    | ok mesh =>
      exact acts_drawSolid h c ((adds_addVertices _ mesh).answers rfl h.sound_polygons)

theorem acts_receive (h : s.frame.Idle) (e : Event Float) (r : Report σ) :
    I.Acts s.frame fun _ => I.receive r (I.record e s) := by
  refine acts_still h ?_
  rw [(I.receive_spec r (I.record e s)).2.1, record_frame]

theorem acts_save (h : s.frame.Idle) (filename : Value) :
    I.Acts s.frame fun R => (I.withRasterizer R).save filename s :=
  acts_receive (I := I) h (.save s.frame.canvas.picture filename)
    (I.exporter.save (I.record _ s).frame.canvas.picture filename (I.record _ s).world)

theorem acts_perform (h : s.frame.Idle) (op : Operation Float) :
    I.Acts s.frame fun R => (I.withRasterizer R).perform symbols op s := by
  cases op with
  | frames | basename | vary => exact acts_still h rfl
  | push => exact acts_moved h _
  | pop =>
    show I.Acts s.frame fun _ => leave s
    unfold leave
    split
    · exact acts_moved h _
    · exact acts_still h rfl
  | move | scale | rotate => exact acts_transform h _
  | box corner extent name _ => exact acts_drawShape h name (.ok (Mesh.box corner extent))
  | sphere centre radius name _ =>
    exact acts_drawShape h name ((Mesh.checkedSteps I.steps).map (Mesh.sphere centre radius))
  | torus centre tube ring name _ =>
    exact acts_drawShape h name ((Mesh.checkedSteps I.steps).map (Mesh.torus centre tube ring))
  | line start stop =>
    exact acts_drawLine h ((adds_addVertices _ #[start, stop]).answers rfl h.sound_edges)
  | save filename => exact acts_save h filename
  | display =>
    exact acts_receive (I := I) h (.display s.frame.canvas.picture)
      (I.exporter.display (I.record _ s).frame.canvas.picture (I.record _ s).world)

theorem acts_drawLooseSolid (h : s.frame.Idle) (shape : String) (fields : List String)
    (op : LooseOperation) :
    I.Acts s.frame fun R => (I.withRasterizer R).drawLooseSolid shape fields symbols op s := by
  have hadded := BufferCall.answers_perform h.sound_polygons
    (.build (.str shape) I.steps (op.parameters fields))
  exact acts_given (x := I.materialOfValue symbols (op.field "constants")) h
    fun c => acts_drawSolid (I := I) h c hadded

theorem acts_performLoose (h : s.frame.Idle) (op : LooseOperation) :
    I.Acts s.frame fun R => (I.withRasterizer R).performLoose symbols op s := by
  unfold performLoose
  cases op.opcode with
  | frames | basename | vary => exact acts_still h rfl
  | push => exact acts_perform h .push
  | pop => exact acts_perform h .pop
  | move | scale | rotate => exact acts_transform h _
  | box | sphere | torus => exact acts_drawLooseSolid h _ _ op
  | line =>
    exact acts_drawLine h (BufferCall.answers_perform h.sound_edges
      (.build (.str "line") I.steps (op.parameters ["p0", "p1"])))
  | save => exact acts_save h _
  | display => exact acts_perform h .display

/-- **Whatever is carried out has a single effect on the frame.** -/
theorem acts_carryOut (h : s.frame.Idle) (x : Instruction) :
    I.Acts s.frame fun R => (I.withRasterizer R).carryOut symbols x s := by
  -- the step is told first, and telling does not touch the frame
  have hrec (e : Event Float) : (I.record e s).frame.Idle := (I.record_frame e s).symm ▸ h
  cases x with
  | item x =>
    cases x with
    | operation op => exact I.record_frame _ s ▸ acts_perform (hrec (.step s.frame.index op)) op
    | foreign v => exact acts_still h rfl
  | loose op =>
    exact I.record_frame _ s ▸ acts_performLoose (hrec (.looseStep s.frame.index op)) op

end Acts

theorem draw_of_reliable {R : Rasterizer Float} (hR : R.Reliable) (e : Event Float)
    (c : Canvas Float) : ((I.withRasterizer R).draw e c).fault? = none := by
  cases e with
  | solid points constants => exact hR.drawSolid ..
  | line points => exact hR.drawLine ..
  | _ => rfl

end Interpreter

namespace Session

open Interpreter

variable {σ : Type} {I : Interpreter Float σ} {d : Session σ} {x : Instruction} {f : Fault}

/-- What is carried out next stops because the rasterizer stops at a drawing: with a rasterizer
that comes to its ends it would not stop. -/
def Blames (d : Session σ) (I : Interpreter Float σ) (x : Instruction) (f : Fault) : Prop :=
  (∃ e, (I.draw e d.stage.frame.canvas).fault? = some f) ∧
    ∀ R : Rasterizer Float, R.Reliable → (d.attempt (I.withRasterizer R) x).fault? = none

theorem exists_effect (h : d.stage.frame.Idle) (I : Interpreter Float σ) (x : Instruction) :
    ∃ E : Effect, E.Tidy d.stage.frame ∧ ∀ R,
      (d.attempt (I.withRasterizer R) x).fault? = (E.on (I.withRasterizer R) d.stage.frame).fault? ∧
      (d.attempt (I.withRasterizer R) x).state.stage.frame =
        (E.on (I.withRasterizer R) d.stage.frame).state := by
  have hacts : I.Acts d.stage.frame fun R => (I.withRasterizer R).carryOut d.symbols x d.stage :=
    acts_carryOut h x
  obtain ⟨E, htidy, hE⟩ := hacts
  exact ⟨E, htidy, fun R => ⟨congrArg Outcome.fault? (hE R), congrArg Outcome.state (hE R)⟩⟩

theorem idle_attempt (h : d.stage.frame.Idle) (x : Instruction) :
    (d.attempt I x).state.stage.frame.Idle := by
  obtain ⟨E, htidy, hE⟩ := exists_effect h I x
  exact (hE I.rasterizer).2 ▸ htidy.idle _

theorem idle_after (h : d.stage.frame.Idle) (xs : List Instruction) :
    (d.after I xs).stage.frame.Idle := by
  induction xs generalizing d with
  | nil => exact h
  | cons x xs ih => exact ih (idle_attempt h x)

/-- What stops does so before anything has changed, or it is the rasterizer that stops. -/
theorem frame_of_fault (h : d.stage.frame.Idle) (hf : (d.attempt I x).fault? = some f) :
    (d.attempt I x).state.stage.frame = d.stage.frame ∨
      d.Blames I x f ∧ (d.attempt I x).state.stage.frame.stack = d.stage.frame.stack := by
  obtain ⟨E, -, hE⟩ := exists_effect h I x
  have hfault : (E.on I d.stage.frame).fault? = some f := (hE I.rasterizer).1.symm.trans hf
  have hframe : (d.attempt I x).state.stage.frame = (E.on I d.stage.frame).state :=
    (hE I.rasterizer).2
  cases E with
  | still fault? => exact .inl hframe
  | moved stack => cases hfault
  | drew e polygons edges =>
    refine .inr ⟨⟨⟨e, hfault⟩, fun R hR => ?_⟩, ?_⟩
    · rw [(hE R).1]
      exact draw_of_reliable hR e _
    · rw [hframe]
      rfl

/-- What is carried out next is refused before anything is drawn. -/
inductive Refused (d : Session σ) (I : Interpreter Float σ) : Instruction → Fault → Prop
  /-- It is no operation. -/
  | foreign (v : Value) : Refused d I (.item (.foreign v)) (Fault.foreignOperation v).raised
  /-- The system that everything stands in cannot be left. -/
  | exit (h : d.stage.frame.stack.below = []) :
    Refused d I (.item (.operation .pop)) (.stackUnderflow 1)
  | knob {op : Operation Float} {name : String} (hname : op.factor? = some name)
    (h : d.symbols.knob? name = none) :
    Refused d I (.item (.operation op)) (.unknownSymbol .knob name)
  | material {op : Operation Float} {name : String} (hname : op.material? = some name)
    (h : d.symbols.constants? name = none) :
    Refused d I (.item (.operation op)) (.unknownSymbol .constants name)
  /-- A sphere in a material that is there, in too few steps. -/
  | sphere {centre : Vec3 Float} {radius : Float} {name system : Option String}
    {c : Constants Float} (hc : I.material d.symbols name = .ok c) (h : I.steps < 3) :
    Refused d I (.item (.operation (.sphere centre radius name system)))
      (Fault.geometry (.tooFewSteps I.steps)).raised
  | torus {centre : Vec3 Float} {tube ring : Float} {name system : Option String}
    {c : Constants Float} (hc : I.material d.symbols name = .ok c) (h : I.steps < 3) :
    Refused d I (.item (.operation (.torus centre tube ring name system)))
      (Fault.geometry (.tooFewSteps I.steps)).raised
  /-- The exporter does not take the picture. -/
  | save {filename : String} {f : Fault} (h : (I.exporter.save d.stage.frame.canvas.picture
      filename d.stage.world).fault? = some f) :
    Refused d I (.item (.operation (.save filename))) f
  | display {f : Fault}
    (h : (I.exporter.display d.stage.frame.canvas.picture d.stage.world).fault? = some f) :
    Refused d I (.item (.operation .display)) f
  | looseSave {op : LooseOperation} {f : Fault} (hop : op.opcode = .save)
    (h : (I.exporter.save d.stage.frame.canvas.picture (op.field "filename")
      d.stage.world).fault? = some f) : Refused d I (.loose op) f
  | looseKnob {op : LooseOperation} {f : Fault} (hop : op.opcode = .move ∨ op.opcode = .scale)
    (h : factorOfValue d.symbols (op.field "knob") = .error f) : Refused d I (.loose op) f
  | looseMaterial {op : LooseOperation} {f : Fault}
    (hop : op.opcode = .box ∨ op.opcode = .sphere ∨ op.opcode = .torus)
    (h : I.materialOfValue d.symbols (op.field "constants") = .error f) : Refused d I (.loose op) f
  /-- The vector of a move or a stretch is none. -/
  | vector {op : LooseOperation} {k : Float} {f : ConversionFault}
    (hop : op.opcode = .move ∨ op.opcode = .scale)
    (hk : factorOfValue d.symbols (op.field "knob") = .ok k)
    (h : (op.field "d").scaledVector k = .error f) : Refused d I (.loose op) (.conversion f)
  /-- The angle of a turn is no number. -/
  | angle {op : LooseOperation} {f : ConversionFault} (hop : op.opcode = .rotate)
    (h : (op.field "degrees").asNumber = .error f) : Refused d I (.loose op) (.conversion f)
  /-- The shape of a solid cannot be built of its fields. -/
  | solid {op : LooseOperation} {shape : String} {fields : List String} {c : Constants Float}
    {f : Fault} (hop : (op.opcode, shape, fields) ∈ [(Opcode.box, "box", ["d0", "d1"]),
      (.sphere, "sphere", ["d", "r"]), (.torus, "torus", ["d", "r0", "r1"])])
    (hc : I.materialOfValue d.symbols (op.field "constants") = .ok c)
    (h : (I.looseShape shape fields op d.stage.frame.polygons).fault? = some f) :
    Refused d I (.loose op) f
  /-- A line cannot be built of its fields. -/
  | line {op : LooseOperation} {f : Fault} (hop : op.opcode = .line)
    (h : (I.looseShape "line" ["p0", "p1"] op d.stage.frame.edges).fault? = some f) :
    Refused d I (.loose op) f

/-- What is refused is refused whichever rasterizer there is. -/
theorem Refused.withRasterizer (h : d.Refused I x f) (R : Rasterizer Float) :
    d.Refused (I.withRasterizer R) x f := by
  cases h with
  | foreign v => exact .foreign v
  | exit h => exact .exit h
  | knob hname h => exact .knob hname h
  | material hname h => exact .material hname h
  | sphere hc h => exact .sphere hc h
  | torus hc h => exact .torus hc h
  | save h => exact .save h
  | display h => exact .display h
  | looseSave hop h => exact .looseSave hop h
  | looseKnob hop h => exact .looseKnob hop h
  | looseMaterial hop h => exact .looseMaterial hop h
  | vector hop hk h => exact .vector hop hk h
  | angle hop h => exact .angle hop h
  | solid hop hc h => exact .solid hop hc h
  | line hop h => exact .line hop h

theorem Refused.fault (h : d.Refused I x f) : (d.attempt I x).fault? = some f := by
  show (I.carryOut d.symbols x d.stage).fault? = some f
  cases h with
  | foreign v => rfl
  | exit h =>
    simp only [carryOut, executeItem, execute, perform, leave, record_frame, OriginStack.pop?, h,
      OriginStack.depth]
    rfl
  | @knob op name hname h =>
    have hfactor : factor d.symbols (some name) = .error (.unknownSymbol .knob name) := by
      simp only [factor, h]
    cases op with
    | move _ knob | scale _ knob | rotate _ _ knob =>
      obtain rfl : knob = some name := hname
      simp only [carryOut, executeItem, execute, perform, hfactor]
      rfl
    | _ => cases hname
  | @material op name hname h =>
    have hmaterial : I.material d.symbols (some name) =
        .error (.unknownSymbol .constants name) := by
      simp only [Interpreter.material, h]
    cases op with
    | box _ _ material | sphere _ _ material | torus _ _ _ material =>
      obtain rfl : material = some name := hname
      simp only [carryOut, executeItem, execute, perform, drawShape, hmaterial]
      rfl
    | _ => cases hname
  | sphere hc h | torus hc h =>
    have hsteps : Mesh.checkedSteps I.steps = .error (.tooFewSteps I.steps) := if_pos h
    simp only [carryOut, executeItem, execute, perform, drawShape, hc, hsteps]
    rfl
  | save h | display h =>
    simp only [carryOut, executeItem, execute, perform, Interpreter.save, receive, record_frame,
      record_world]
    exact h
  | looseSave hop h =>
    simp only [carryOut, performLoose, hop, Interpreter.save, receive, record_frame, record_world]
    exact h
  | @looseKnob op f hop h =>
    have hmatrix (matrix : Vec3 Float → Matrix4 Float) :
        looseMatrix matrix d.symbols op = .error f := by
      simp only [looseMatrix, h]
      rfl
    rcases hop with hop | hop <;>
      simp only [carryOut, performLoose, hop, hmatrix] <;> rfl
  | @looseMaterial op f hop h =>
    rcases hop with hop | hop | hop <;>
      simp only [carryOut, performLoose, hop, drawLooseSolid, h] <;> rfl
  | @vector op k f hop hk h =>
    have hmatrix (matrix : Vec3 Float → Matrix4 Float) :
        looseMatrix matrix d.symbols op = .error (.conversion f) := by
      simp only [looseMatrix, hk, bind, Except.bind, h]
      rfl
    rcases hop with hop | hop <;>
      simp only [carryOut, performLoose, hop, hmatrix] <;> rfl
  | @angle op f hop h =>
    simp only [carryOut, performLoose, hop, looseTurn, h]
    rfl
  | @solid op shape fields c f hop hc h =>
    simp only [List.mem_cons, Prod.mk.injEq, List.not_mem_nil, or_false] at hop
    rcases hop with ⟨hop, rfl, rfl⟩ | ⟨hop, rfl, rfl⟩ | ⟨hop, rfl, rfl⟩ <;>
      simp only [carryOut, performLoose, hop, drawLooseSolid, hc, Outcome.given, record_frame] <;>
      exact fault_drawSolid h
  | @line op f hop h =>
    simp only [carryOut, performLoose, hop, record_frame]
    exact fault_drawLine h

theorem Refused.not_blames (h : d.Refused I x f) : ¬ d.Blames I x f := by
  intro hblames
  have hnone := hblames.2 .silent Rasterizer.reliable_silent
  rw [(h.withRasterizer .silent).fault] at hnone
  cases hnone

/-- **What is carried out, is carried out as a whole or not at all.**  Whatever an interpreter has
been given, and whatever has stopped since the frame was made or prepared anew: after the next
thing that it is given no geometry waits, whether it stops or not.  When it stops, the stack and the
symbols are as they were, and so is the frame as a whole, with its canvas, unless it is the
rasterizer that has stopped.  What is refused before anything is drawn (`Refused`) does stop, and
the frame is as it was. -/
theorem attempt_atomic (I : Interpreter Float σ) (start : Session σ)
    (hstart : start.stage.frame.Idle) (history : List Instruction) (x : Instruction) :
    let d := start.after I history
    let o := d.attempt I x
    o.state.stage.frame.polygons.points = #[] ∧ o.state.stage.frame.edges.points = #[] ∧
      o.state.symbols = d.symbols ∧
      (∀ f, o.fault? = some f →
        o.state.stage.frame.stack = d.stage.frame.stack ∧
        (¬ d.Blames I x f → o.state.stage.frame = d.stage.frame)) ∧
      ∀ f, d.Refused I x f → o.fault? = some f ∧ o.state.stage.frame = d.stage.frame := by
  intro d o
  have hidle : d.stage.frame.Idle := idle_after hstart history
  have hafter : o.state.stage.frame.Idle := idle_attempt hidle x
  refine ⟨hafter.polygons_points, hafter.edges_points, rfl, fun f hf => ?_,
    fun f hrefused => ⟨hrefused.fault, ?_⟩⟩
  · rcases frame_of_fault hidle hf with hframe | ⟨hblames, hstack⟩
    · exact ⟨congrArg Frame.stack hframe, fun _ => hframe⟩
    · exact ⟨hstack, fun hnot => absurd hblames hnot⟩
  · exact (frame_of_fault hidle hrefused.fault).resolve_right
      fun hblames => hrefused.not_blames hblames.1

/-- A drawing that has failed half-way stays on the canvas; whatever is refused after it, for one
reason or another, leaves the frame alone. -/
theorem attempt_atomic_refusals :
    let smudge (canvas : Canvas Float) : Outcome (Canvas Float) :=
      .failed { canvas with picture := .solid 1 1 ⟨9, 9, 9⟩ } .shapeMismatch
    let R : Rasterizer Float := ⟨fun _ _ _ canvas => smudge canvas, fun _ _ canvas => smudge canvas⟩
    let full (w : Unit) : Report Unit := { world := w, fault? := some (.file .occupied) }
    let I : Interpreter Float Unit :=
      ⟨R, ⟨fun _ _ w => full w, fun _ w => full w, fun _ _ w => full w⟩, .default, 2, fun _ => true⟩
    let start : Session Unit := ⟨.empty, ⟨.blank 0 1, #[], ()⟩⟩
    let history : List Instruction := [.item (.operation .push), .item (.operation .pop),
      .item (.operation (.line ⟨0, 0, 0⟩ ⟨1, 0, 0⟩ none none none))]
    let refused : List Instruction := [.item (.operation .pop),
      .item (.operation (.move ⟨1, 0, 0⟩ (some "k"))),
      .item (.operation (.box ⟨0, 0, 0⟩ ⟨1, 1, 1⟩ (some "m") none)),
      .item (.operation (.sphere ⟨0, 0, 0⟩ 1 none none)), .loose ⟨.scale, fun _ => .null⟩,
      .item (.foreign (.int 7)), .item (.operation (.save "a.png"))]
    let d := start.after I history
    start.stage.frame.Idle ∧ ∀ x ∈ refused,
      (d.attempt I x).fault?.isSome ∧ (d.attempt I x).state.stage.frame = d.stage.frame := by
  intro smudge R full I start history refused d
  have hstart : start.stage.frame.Idle := Frame.idle_blank 0 1
  have hrefused {x : Instruction} {f : Fault} (h : d.Refused I x f) :
      (d.attempt I x).fault?.isSome ∧ (d.attempt I x).state.stage.frame = d.stage.frame := by
    have hatomic := (attempt_atomic I start hstart history x).2.2.2.2 f h
    exact ⟨Option.isSome_iff_exists.2 ⟨f, hatomic.1⟩, hatomic.2⟩
  have hstack : d.stage.frame.stack = .single .identity :=
    (I.stack_drawLine _ _).trans (congrArg Frame.stack (I.record_frame _ _))
  refine ⟨hstart, ?_⟩
  simp only [refused, List.forall_mem_cons]
  exact ⟨hrefused (.exit (congrArg OriginStack.below hstack)), hrefused (.knob rfl rfl),
    hrefused (.material rfl rfl), hrefused (.sphere rfl (by decide)),
    hrefused (.vector (.inr rfl) rfl rfl), hrefused (.foreign _), hrefused (.save rfl),
    fun _ hmem => absurd hmem List.not_mem_nil⟩

end Session

end Flipbook
