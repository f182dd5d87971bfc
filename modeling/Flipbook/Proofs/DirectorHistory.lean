import Flipbook.Proofs.CanvasMeasures
import Flipbook.Proofs.DirectedRun
import Flipbook.Proofs.SharedNames

/-!
# What a director has been through

A director draws all its frames on one canvas, with one stack and with the same buffers.  Whatever
it has been through (`Director.Past`: frames and runs, stopped half-way or not, and changes from
outside to the canvas, the stack, the buffers and the symbols), it can restore all of that
(`Director.Past.restorable`), because a frame that is reset is as good as new
(`Frame.Reusable.reset`).
-/

namespace Flipbook

namespace Frame

variable {α : Type}

/-- The frame can be made as good as new. -/
structure Reusable (size : Nat) (f : Frame α) : Prop where
  canvas : f.canvas.Fits size
  polygons : f.polygons.kind = .polygons
  edges : f.edges.kind = .edges

/-- The frame is as good as new. -/
structure Fresh [Zero α] [One α] [Farthest α] (size : Nat) (index : Int) (f : Frame α) : Prop where
  index : f.index = index
  canvas : f.canvas = .blank size
  stack : f.stack = .single .identity
  idle : f.Idle

variable [Zero α] [One α] [Farthest α] {f : Frame α} {size : Nat} {index : Int}

theorem fresh_blank (size : Nat) (index : Int) : (blank index size : Frame α).Fresh size index :=
  ⟨rfl, rfl, rfl, idle_blank index size⟩

/-- **A frame that is reset is as good as new.** -/
theorem Reusable.reset (h : f.Reusable size) (index : Int) : (f.reset index).Fresh size index :=
  ⟨rfl, h.canvas.clear, rfl, h.polygons, GeometryBuffer.points_clear, h.edges,
    GeometryBuffer.points_clear⟩

theorem Fresh.reusable (h : f.Fresh size index) : f.Reusable size :=
  ⟨h.canvas ▸ Canvas.fits_blank size, h.idle.polygons_kind, h.idle.edges_kind⟩

end Frame

theorem AnimationConfig.ofOperations_default {α : Type} (ops : List (Operation α))
    (name name' : String) :
    (ofOperations ops name).map (·.1.frameCount) =
      (ofOperations ops name').map (·.1.frameCount) := by
  unfold ofOperations
  dsimp only
  split <;> rfl

namespace Director

open Interpreter Performance

variable {α σ : Type}

/-! ### What preparing depends on -/

/-- What a director has asked of those that draw and export. -/
def calls (d : Director α σ) : List (Event α) := d.events.toList.filter fun e => !e.isMessage

theorem filter_message_notices (ns : List Notice) :
    (ns.map (.notice : Notice → Event α)).filter (fun e => !e.isMessage) = [] := by
  simp [List.filter_eq_nil_iff, Event.isMessage]

theorem calls_of_notices {d d' : Director α σ} (ns : List Notice)
    (h : d'.events.toList = d.events.toList ++
      (ns.map Event.notice).filter d.interpreter.watches) : d'.calls = d.calls := by
  rw [calls, h, List.filter_append, List.filter_comm, filter_message_notices, List.filter_nil,
    List.append_nil, calls]

theorem knob?_of_declared [Zero α] (t : SymbolTable α) {ops : List (Operation α)} {op : Operation α}
    (hop : op ∈ ops) {name : String} (hname : op.knob? = some name) :
    (t.declareKnobs ops).1.knob? name = (t.knob? name).or (some 0) := by
  rw [t.knob?_declareKnobs ops name, if_pos ⟨op, hop, hname⟩]

variable [Add α] [Sub α] [Mul α] [Div α] [OfInteger α]

/-- The schedule of operations, whatever their animation is called. -/
def scheduleOf (ops : List (Operation α)) : Except Fault (KnobSchedule α) := do
  KnobSchedule.ofOperations ops (← (AnimationConfig.ofOperations ops "").map (·.1.frameCount))

variable [Zero α]

/-- Preparing fails for the operations alone, and then it has only told something. -/
theorem compile_of_error {d : Director α σ} {f : Fault}
    (h : scheduleOf d.operations = .error f) :
    d.compile.fault? = some f ∧ d.compile.state = { d with events := d.compile.state.events } ∧
      d.compile.state.calls = d.calls := by
  unfold scheduleOf at h
  rw [AnimationConfig.ofOperations_default _ _ d.settings.defaultBasename] at h
  unfold compile
  cases hconfig : AnimationConfig.ofOperations d.operations d.settings.defaultBasename with
  | error g =>
    rw [hconfig] at h
    cases h
    exact ⟨rfl, rfl, rfl⟩
  | ok result =>
    obtain ⟨config, notices⟩ := result
    rw [hconfig] at h
    replace h : KnobSchedule.ofOperations d.operations config.frameCount = .error f := h
    obtain ⟨htold, hevents⟩ := foldl_tell notices d
    have hoperations : (notices.foldl tell d).operations = d.operations := by rw [htold]
    simp only [hoperations, h]
    exact ⟨rfl, htold, calls_of_notices notices hevents⟩

theorem compile_of_ok {d : Director α σ} {s : KnobSchedule α}
    (h : scheduleOf d.operations = .ok s) :
    d.compile.fault? = none ∧ d.compile.state.schedule? = some s := by
  unfold scheduleOf at h
  rw [AnimationConfig.ofOperations_default _ _ d.settings.defaultBasename] at h
  unfold compile
  cases hconfig : AnimationConfig.ofOperations d.operations d.settings.defaultBasename with
  | error g =>
    rw [hconfig] at h
    cases h
  | ok result =>
    obtain ⟨config, notices⟩ := result
    rw [hconfig] at h
    replace h : KnobSchedule.ofOperations d.operations config.frameCount = .ok s := h
    have hoperations : (notices.foldl tell d).operations = d.operations := by
      rw [(foldl_tell notices d).1]
    simp only [hoperations, h]
    exact ⟨rfl, rfl⟩

theorem scheduleOf_of_fault {d : Director α σ} {f : Fault} (h : d.compile.fault? = some f) :
    scheduleOf d.operations = .error f := by
  cases hs : scheduleOf d.operations with
  | error g =>
    rw [(compile_of_error hs).1] at h
    rw [Option.some.inj h]
  | ok s =>
    rw [(compile_of_ok hs).1] at h
    cases h

/-! ### Directors that can draw anew -/

/-- The director has the operations, the interpreter and the size of `new`, has prepared these
operations or not, and can make its frame as good as new if it has one. -/
structure Restorable (new d : Director α σ) : Prop where
  operations : d.operations = new.operations
  interpreter : d.interpreter = new.interpreter
  size : d.size = new.size
  schedule : ∀ s, d.schedule? = some s → scheduleOf new.operations = .ok s ∧
    ∀ op ∈ new.operations, ∀ name, op.knob? = some name → (d.symbols.knob? name).isSome
  frame : ∀ frame, d.frame? = some frame →
    d.schedule?.isSome ∧ 0 ≤ new.size ∧ frame.Reusable new.size.toNat

/-- The director has neither prepared its operations nor drawn anything. -/
def Unused (d : Director α σ) : Prop := d.schedule? = none ∧ d.frame? = none

variable {new d d' : Director α σ} {s : KnobSchedule α}

omit [Zero α] in
theorem Unused.restorable (h : d.Unused) (hoperations : d.operations = new.operations)
    (hinterpreter : d.interpreter = new.interpreter) (hsize : d.size = new.size) :
    Restorable new d where
  operations := hoperations
  interpreter := hinterpreter
  size := hsize
  schedule s hs := by rw [h.1] at hs; cases hs
  frame frame hframe := by rw [h.2] at hframe; cases hframe

omit [Zero α] in
theorem Restorable.of_eq (h : Restorable new d) (hfixed : d'.fixed = d.fixed)
    (hsymbols : d'.symbols = d.symbols) (hframe : d'.frame? = d.frame?) : Restorable new d' where
  operations := (congrArg (·.1) hfixed).trans h.operations
  interpreter := (congrArg (·.2.1) hfixed).trans h.interpreter
  size := (congrArg (·.2.2.2.2.2.1) hfixed).trans h.size
  schedule s hs := by
    rw [schedule_of_fixed hfixed] at hs
    rw [hsymbols]
    exact h.schedule s hs
  frame frame hf := by
    rw [hframe] at hf
    rw [schedule_of_fixed hfixed]
    exact h.frame frame hf

theorem Restorable.compile (h : Restorable new d) : Restorable new d.compile.state := by
  cases hs : scheduleOf d.operations with
  | error f =>
    obtain ⟨-, hstate, -⟩ := compile_of_error hs
    rw [hstate]
    exact h.of_eq rfl rfl rfl
  | ok s =>
    obtain ⟨hfault, hschedule⟩ := compile_of_ok hs
    obtain ⟨config, notices, s', -, -, hstate, -⟩ := compile_spec hfault
    rw [hstate] at hschedule ⊢
    obtain rfl := Option.some.inj hschedule
    refine ⟨h.operations, h.interpreter, h.size, ?_, fun frame hframe => ?_⟩
    · rintro _ ⟨⟩
      refine ⟨h.operations ▸ hs, fun op hop name hname => ?_⟩
      rw [← h.operations] at hop
      simp only [knob?_of_declared d.symbols hop hname, Option.isSome_or, Option.isSome_some,
        Bool.or_true]
    · exact ⟨rfl, (h.frame frame hframe).2⟩

/-! ### Histories -/

variable [One α] [Neg α] [NatCast α] [Circular α] [Farthest α]

/-- What a director can have been through since it was `new`: preparing, frames and runs, none of
which need have come to its end, and changes from outside. -/
inductive Past (new : Director α σ) : Director α σ → Prop
  | new : Past new new
  | compiled {d : Director α σ} (h : Past new d) : Past new d.compile.state
  | rendered {d : Director α σ} (h : Past new d) (index : Int) :
      Past new (d.renderFrame index).state
  | ran {d : Director α σ} (h : Past new d) : Past new d.run.state
  /-- The contents of the frame were overwritten: its pixels and depths, its stack and what waits
  in its buffers. -/
  | overwritten {d : Director α σ} (h : Past new d) {frame frame' : Frame α}
      (hframe : d.frame? = some frame) (hcanvas : frame.canvas.SameMeasures frame'.canvas)
      (hpolygons : frame'.polygons.kind = frame.polygons.kind)
      (hedges : frame'.edges.kind = frame.edges.kind) : Past new { d with frame? := some frame' }
  | knobSet {d : Director α σ} (h : Past new d) (name : String) (x : α) :
      Past new { d with symbols := d.symbols.setKnob name x }
  | constantsSet {d : Director α σ} (h : Past new d) (name : String) (c : Constants α) :
      Past new { d with symbols := d.symbols.setConstants name c }
  /-- Something else happened, and the world changed. -/
  | elsewhere {d : Director α σ} (h : Past new d) (events : Array (Event α)) (world : σ) :
      Past new { d with events := events, world := world }

/-! ### Preparing -/

/-- Rendering a frame either finds that its operations have no schedule, or draws the frame once
there is one. -/
theorem Restorable.renderFrame_cases (h : Restorable new d) (index : Int) :
    (∃ f, scheduleOf new.operations = .error f ∧ (d.renderFrame index).fault? = some f ∧
      (d.renderFrame index).state = d.compile.state ∧
      (d.renderFrame index).state.frame? = none ∧ (d.renderFrame index).state.calls = d.calls) ∨
    ∃ s d₁, scheduleOf new.operations = .ok s ∧ d.renderFrame index = d₁.drawFrame s index ∧
      Restorable new d₁ ∧ d₁.schedule? = some s ∧ d₁.calls = d.calls ∧ d₁.world = d.world ∧
      d₁.symbols.constants = d.symbols.constants ∧
      ∀ op ∈ new.operations, ∀ name, op.knob? = some name →
        d₁.symbols.knob? name = (d.symbols.knob? name).or (some 0) := by
  cases hd : d.schedule? with
  | some s =>
    obtain ⟨hs, hdeclared⟩ := h.schedule s hd
    refine .inr ⟨s, d, hs, by rw [renderFrame, hd], h, hd, rfl, rfl, rfl,
      fun op hop name hname => ?_⟩
    obtain ⟨x, hx⟩ := Option.isSome_iff_exists.1 (hdeclared op hop name hname)
    rw [hx]
    rfl
  | none =>
    have hrender : d.renderFrame index =
        d.compile.andThen fun d => d.schedule?.elim (.done d) (d.drawFrame · index) := by
      simp only [renderFrame, hd]
      congr 1
      funext d
      cases d.schedule? <;> rfl
    cases hs : scheduleOf d.operations with
    | error f =>
      obtain ⟨hfault, hstate, hcalls⟩ := compile_of_error hs
      rw [hrender, Outcome.andThen_of_some hfault]
      refine .inl ⟨f, h.operations ▸ hs, hfault, rfl, ?_, hcalls⟩
      -- a frame would have needed a schedule
      cases hframe : d.frame? with
      | none => rw [hstate]; exact hframe
      | some frame =>
        have := (h.frame frame hframe).1
        rw [hd] at this
        cases this
    | ok s =>
      obtain ⟨hfault, hschedule⟩ := compile_of_ok hs
      obtain ⟨config, notices, s', -, -, hstate, hevents⟩ := compile_spec hfault
      refine .inr ⟨s, d.compile.state, h.operations ▸ hs, ?_, h.compile, hschedule,
        calls_of_notices _ hevents, by rw [hstate], ?_, fun op hop name hname => ?_⟩
      · rw [hrender, Outcome.andThen_of_none hfault, hschedule, Option.elim_some]
      · rw [hstate]
        exact d.symbols.constants_declareKnobs d.operations
      · rw [hstate]
        exact knob?_of_declared d.symbols (h.operations ▸ hop) hname

/-! ### Drawing -/

omit [Neg α] [NatCast α] [Circular α] in
/-- A frame is made ready as good as new, unless its size is negative. -/
theorem Restorable.prepareFrame (h : Restorable new d) (index : Int) :
    (new.size < 0 ∧ d.frame? = none ∧ d.prepareFrame index = .error (.conversion .malformed)) ∨
    (0 ≤ new.size ∧
      ∃ frame, d.prepareFrame index = .ok frame ∧ frame.Fresh new.size.toNat index) := by
  unfold Director.prepareFrame
  cases hframe : d.frame? with
  | some frame =>
    obtain ⟨-, hsize, hreusable⟩ := h.frame frame hframe
    exact .inr ⟨hsize, _, rfl, hreusable.reset index⟩
  | none =>
    unfold Frame.create
    rw [h.size]
    rcases Int.lt_or_le new.size 0 with hsize | hsize
    · exact .inl ⟨hsize, rfl, if_pos hsize⟩
    · exact .inr ⟨hsize, _, if_neg (Int.not_lt.2 hsize), Frame.fresh_blank ..⟩

/-- What is carried out for a frame with the symbols `t`. -/
def drawing (new : Director α σ) (t : SymbolTable α) (index : Int) (world : σ) :
    Performance α σ :=
  ⟨new.interpreter, t, new.operations, index, .blank new.size.toNat, world⟩

/-- How drawing a frame comes out: no frame can be made, the schedule does not have it, or its
operations are carried out from a fresh stage. -/
inductive DrawnAs (new d : Director α σ) (s : KnobSchedule α) (index : Int) :
    Outcome (Director α σ) → Prop
  | noFrame (hsize : new.size < 0) (hframe : d.frame? = none) :
      DrawnAs new d s index (.failed d (.conversion .malformed))
  | noEntries {frame : Frame α} {f : Fault} (hsize : 0 ≤ new.size)
      (hframe : frame.Fresh new.size.toNat index) (hentries : s.entriesAt index = .error f) :
      DrawnAs new d s index (.failed { d with frame? := some frame } f)
  | performed {stage : Stage α σ} {entries : Array (KnobEntry α)} (hsize : 0 ≤ new.size)
      (hentries : s.entriesAt index = .ok entries)
      (hstands : (new.drawing (d.symbols.applyEntries entries) index d.world).Stands
        d.events.toList 0 stage) :
      DrawnAs new d s index
        ((new.interpreter.run (d.symbols.applyEntries entries) new.operations stage).map
          ({ d with symbols := d.symbols.applyEntries entries } : Director α σ).ofStage)

theorem Restorable.drawnAs (h : Restorable new d) (s : KnobSchedule α) (index : Int) :
    DrawnAs new d s index (d.drawFrame s index) := by
  unfold drawFrame
  rcases h.prepareFrame index with ⟨hsize, hframe, hprepare⟩ | ⟨hsize, frame, hprepare, hfresh⟩
  · rw [hprepare]
    exact .noFrame hsize hframe
  · rw [hprepare]
    cases hentries : s.entriesAt index with
    | error f => exact .noEntries hsize hfresh hentries
    | ok entries =>
      have hstands : (new.drawing (d.symbols.applyEntries entries) index d.world).Stands
          d.events.toList 0 (d.stage frame) :=
        ⟨⟨hfresh.index, hfresh.idle, hfresh.canvas, rfl, by simp [stage]⟩, hfresh.stack⟩
      have hperformed : DrawnAs new d s index _ := .performed hsize hentries hstands
      rw [← h.interpreter, ← h.operations] at hperformed
      exact hperformed

omit [Sub α] [OfInteger α] [Farthest α] in
theorem shown_of_run {p : Performance α σ} {before : List (Event α)} {stage : Stage α σ}
    (h₀ : p.Stands before 0 stage) :
    ∃ k, p.Shown before k (p.interpreter.run p.symbols p.operations stage).state := by
  obtain ⟨-, -, k, hshown, -⟩ := run_again (R := (· = ·)) (.refl p.operations p.symbols)
    p.interpreter.exporter.answersAlike_eq rfl h₀ (n := p.index) (w := p.world) h₀
  exact ⟨k, hshown⟩

theorem Restorable.drawFrame (h : Restorable new d)
    (hraster : new.interpreter.rasterizer.KeepsMeasures) (hs : d.schedule? = some s)
    (index : Int) : Restorable new (d.drawFrame s index).state := by
  have hd := h.drawnAs s index
  generalize d.drawFrame s index = o at hd
  cases hd with
  | noFrame => exact h
  | noEntries hsize hframe =>
    refine ⟨h.operations, h.interpreter, h.size, h.schedule, ?_⟩
    rintro _ ⟨⟩
    exact ⟨by rw [hs]; rfl, hsize, hframe.reusable⟩
  | @performed stage entries hsize hentries hstands =>
    obtain ⟨k, hshown⟩ := shown_of_run hstands
    refine ⟨h.operations, h.interpreter, h.size, fun s' hs' => ?_, ?_⟩
    · obtain ⟨hof, hdeclared⟩ := h.schedule s' hs'
      refine ⟨hof, fun op hop name hname => ?_⟩
      -- entries are written over values that are there
      have hknob := SymbolTable.knob?_applyEntries d.symbols entries name
      simp only [Outcome.map_state, ofStage]
      rw [hknob, Option.isSome_or, hdeclared op hop name hname, Bool.or_true]
    · rintro _ ⟨⟩
      have hfits := (Canvas.fits_blank new.size.toNat).of_same
        (canvasBefore_measures (p := new.drawing (d.symbols.applyEntries entries) index d.world)
          hraster k)
      rw [← hshown.canvas] at hfits
      exact ⟨by rw [Outcome.map_state, ofStage, hs]; rfl, hsize, hfits,
        hshown.idle.polygons_kind, hshown.idle.edges_kind⟩

theorem Restorable.renderFrame (h : Restorable new d)
    (hraster : new.interpreter.rasterizer.KeepsMeasures) (index : Int) :
    Restorable new (d.renderFrame index).state := by
  rcases h.renderFrame_cases index with
    ⟨f, -, -, hstate, -⟩ | ⟨s, d₁, -, hrender, h₁, hs, -⟩
  · rw [hstate]
    exact h.compile
  · rw [hrender]
    exact h₁.drawFrame hraster hs index

theorem Restorable.run (h : Restorable new d)
    (hraster : new.interpreter.rasterizer.KeepsMeasures) : Restorable new d.run.state := by
  have hkeep (config : AnimationConfig) (f : Nat) (d : Director α σ) (hd : Restorable new d) :
      Restorable new (d.keepFrame config f).state :=
    hd.of_eq (keepFrame_state ..).1 (keepFrame_state ..).2
      (keepFrame_preserves Director.frame? (fun e d => d.frame_record e) (fun _ _ => rfl) ..)
  have hfinish (config : AnimationConfig) (d : Director α σ) (hd : Restorable new d) :
      Restorable new (d.finish config).state := by
    refine hd.of_eq (finish_state ..).1 (finish_state ..).2 ?_
    unfold finish assemble
    split
    · rw [receive_preserves Director.frame? (fun e d => d.frame_record e) fun _ _ => rfl, tell,
        frame_record, frame_record]
    · rfl
  refine Outcome.andThen_state h.compile fun d hd => ?_
  split
  · rename_i config _
    refine Outcome.andThen_state ?_ (hfinish config)
    refine Outcome.sequence_state (fun f _ d hd => ?_) hd
    exact Outcome.andThen_state (hd.renderFrame hraster f) (hkeep config f)
  · exact hd

/-- **Whatever a director has been through, it can make its frame as good as new.** -/
theorem Past.restorable (hnew : new.Unused)
    (hraster : new.interpreter.rasterizer.KeepsMeasures) (h : Past new d) :
    Restorable new d := by
  induction h with
  | new => exact hnew.restorable rfl rfl rfl
  | compiled _ ih => exact ih.compile
  | rendered _ index ih => exact ih.renderFrame hraster index
  | ran _ ih => exact ih.run hraster
  | @overwritten d _ frame frame' hframe hcanvas hpolygons hedges ih =>
    obtain ⟨hsome, hsize, hreusable⟩ := ih.frame frame hframe
    refine ⟨ih.operations, ih.interpreter, ih.size, ih.schedule, ?_⟩
    rintro _ ⟨⟩
    exact ⟨hsome, hsize, hreusable.canvas.of_same hcanvas, hpolygons.trans hreusable.polygons,
      hedges.trans hreusable.edges⟩
  | @knobSet d _ name x ih =>
    refine ⟨ih.operations, ih.interpreter, ih.size, fun s hs => ?_, ih.frame⟩
    obtain ⟨hof, hdeclared⟩ := ih.schedule s hs
    refine ⟨hof, fun op hop name' hname => ?_⟩
    rw [SymbolTable.knob?_setKnob]
    split
    · rfl
    · exact hdeclared op hop name' hname
  | constantsSet _ _ _ ih => exact ⟨ih.operations, ih.interpreter, ih.size, ih.schedule, ih.frame⟩
  | elsewhere _ _ _ ih => exact ih.of_eq rfl rfl rfl

end Director

end Flipbook
