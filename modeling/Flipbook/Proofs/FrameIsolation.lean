import Flipbook.Proofs.DirectorHistory

/-!
# Frames do not depend on what was drawn before

A frame comes out as from a new director, whatever was drawn before it, as long as the tables agree
on the names that are read (`Director.renderFrame_isolated`): both directors make their frame as
good as new, and from there on they carry out the same operations (`Director.Restorable.isolated`).
A run in which no knob varies draws the same frame again and again (`Director.frames_of_run`).
-/

namespace Flipbook

namespace Frame

variable {α : Type} {f g : Frame α} {size : Nat} {index : Int}

/-- The frames have the same number, canvas and stack, and nothing waits in either. -/
structure Same (f g : Frame α) : Prop where
  index : f.index = g.index
  canvas : f.canvas = g.canvas
  stack : f.stack = g.stack
  idle : f.Idle
  idle' : g.Idle

variable [Zero α] [One α] [Farthest α]

theorem Fresh.same (h : f.Fresh size index) (h' : g.Fresh size index) : f.Same g :=
  ⟨h.index.trans h'.index.symm, h.canvas.trans h'.canvas.symm, h.stack.trans h'.stack.symm,
    h.idle, h'.idle⟩

end Frame

theorem SymbolTable.AgreeOn.applyEntries {α : Type} {ops : List (Operation α)}
    {t t' : SymbolTable α} (h : t.AgreeOn ops t') (entries : Array (KnobEntry α)) :
    (t.applyEntries entries).AgreeOn ops (t'.applyEntries entries) where
  knob op hop name hname := by
    rw [knob?_applyEntries, knob?_applyEntries, h.knob op hop name hname]
  constants op hop name hname := by
    simp only [constants?, constants_applyEntries]
    exact h.constants op hop name hname

namespace Director

open Interpreter Performance

variable {α σ : Type} [Zero α] [One α] [Add α] [Sub α] [Mul α] [Div α] [Neg α] [NatCast α]
variable [OfInteger α] [Circular α] [Farthest α]
variable {new d d' : Director α σ}

/-! ### Two directors -/

/-- The outcomes of two directors have the same fault, the same new calls and the same frame, if
there is one. -/
structure Isolated (d d' : Director α σ) (o o' : Outcome (Director α σ)) : Prop where
  fault : o.fault? = o'.fault?
  calls : ∃ new, o.state.calls = d.calls ++ new ∧ o'.state.calls = d'.calls ++ new
  frame : Option.Rel Frame.Same o.state.frame? o'.state.frame?

/-- **A frame is drawn alike from whatever two directors have been through.** -/
theorem Restorable.isolated {R : σ → σ → Prop} (h : Restorable new d) (h' : Restorable new d')
    (hexporter : new.interpreter.exporter.AnswersAlike R) (hworld : R d.world d'.world)
    (hagree : d.symbols.AgreeOn new.operations d'.symbols) (s : KnobSchedule α) (index : Int) :
    Isolated d d' (d.drawFrame s index) (d'.drawFrame s index) := by
  have hd := h.drawnAs s index
  have hd' := h'.drawnAs s index
  generalize d.drawFrame s index = o at hd
  generalize d'.drawFrame s index = o' at hd'
  -- whether there is a frame and whether it has entries is the same for both
  cases hd with
  | noFrame hsize hframe =>
    cases hd' with
    | noFrame _ hframe' =>
      refine ⟨rfl, ⟨[], by simp, by simp⟩, ?_⟩
      simp only [Outcome.failed_state, hframe, hframe']
      exact .none
    | noEntries hsize' | performed hsize' => omega
  | noEntries hsize hfresh hentries =>
    cases hd' with
    | noFrame hsize' => omega
    | noEntries _ hfresh' hentries' =>
      obtain rfl := Except.error.inj (hentries.symm.trans hentries')
      exact ⟨rfl, ⟨[], by simp [calls], by simp [calls]⟩, .some (hfresh.same hfresh')⟩
    | performed _ hentries' => rw [hentries] at hentries'; cases hentries'
  | @performed stage entries hsize hentries hstands =>
    cases hd' with
    | noFrame hsize' => omega
    | noEntries _ _ hentries' => rw [hentries] at hentries'; cases hentries'
    | @performed stage' entries' _ hentries' hstands' =>
      obtain rfl := Except.ok.inj (hentries.symm.trans hentries')
      obtain ⟨hfault, hstack, k, hshown, hshown'⟩ := run_again (p := new.drawing _ index d.world)
        (hagree.applyEntries entries) hexporter hworld hstands hstands'
      have hcanvas := canvasBefore_again (p := new.drawing _ index d.world)
        (hagree.applyEntries entries) (n := index) (w := d'.world) k
      have hcalls := callsBefore_again (p := new.drawing _ index d.world)
        (hagree.applyEntries entries) (n := index) (w := d'.world) k
      refine ⟨hfault, ⟨_, hshown.asked.calls, ?_⟩, .some ⟨?_, ?_, hstack, hshown.idle,
        hshown'.idle⟩⟩
      · rw [← hcalls]
        exact hshown'.asked.calls
      · exact hshown.index.trans hshown'.index.symm
      · exact hshown.canvas.trans (hcanvas.symm.trans hshown'.canvas.symm)

/-- Rendering a frame that is prepared anew or not, from whatever two directors have been
through. -/
theorem Restorable.rendered_alike {R : σ → σ → Prop} (h : Restorable new d)
    (h' : Restorable new d') (hexporter : new.interpreter.exporter.AnswersAlike R)
    (hworld : R d.world d'.world) (hagree : d.symbols.AgreeOn new.operations d'.symbols)
    (index : Int) : Isolated d d' (d.renderFrame index) (d'.renderFrame index) := by
  rcases h.renderFrame_cases index with
    ⟨f, hf, hfault, -, hframe, hcalls⟩ |
      ⟨s, d₁, hs, hrender, h₁, -, hcalls, hworld₁, hconstants, hknobs⟩
  · rcases h'.renderFrame_cases index with
      ⟨f', hf', hfault', -, hframe', hcalls'⟩ | ⟨s', _, hs', -⟩
    · obtain rfl := Except.error.inj (hf.symm.trans hf')
      refine ⟨hfault.trans hfault'.symm, ⟨[], by rw [hcalls, List.append_nil],
        by rw [hcalls', List.append_nil]⟩, ?_⟩
      rw [hframe, hframe']
      exact .none
    · rw [hf] at hs'
      cases hs'
  · rcases h'.renderFrame_cases index with
      ⟨f', hf', -⟩ |
        ⟨s', d₁', hs', hrender', h₁', -, hcalls', hworld₁', hconstants', hknobs'⟩
    · rw [hs] at hf'
      cases hf'
    · obtain rfl := Except.ok.inj (hs.symm.trans hs')
      -- once their knobs are declared the tables still agree
      have hagree₁ : d₁.symbols.AgreeOn new.operations d₁'.symbols := by
        refine ⟨fun op hop name hname => ?_, fun op hop name hname => ?_⟩
        · have hknob := op.knob?_of_factor? hname
          rw [hknobs op hop name hknob, hknobs' op hop name hknob, hagree.knob op hop name hname]
        · simp only [SymbolTable.constants?, hconstants, hconstants']
          exact hagree.constants op hop name hname
      rw [hrender, hrender']
      have hdrawn := h₁.isolated h₁' hexporter (by rw [hworld₁, hworld₁']; exact hworld) hagree₁
        s index
      obtain ⟨calls, hnew, hnew'⟩ := hdrawn.calls
      exact ⟨hdrawn.fault, ⟨calls, by rw [hnew, hcalls], by rw [hnew', hcalls']⟩, hdrawn.frame⟩

/-! ### Runs in which nothing varies -/

omit [Sub α] [OfInteger α] in
theorem performance_canvas (hraster : d.interpreter.rasterizer.KeepsMeasures)
    (config : AnimationConfig) (schedule : KnobSchedule α) (f : Nat) :
    (d.performance config schedule f).canvas = .blank d.size.toNat := by
  induction f with
  | zero => rfl
  | succ f ih =>
    have hkept := canvasBefore_measures (p := d.performance config schedule f)
      (by rwa [performance_interpreter]) (d.performance config schedule f).operations.length
    rw [ih] at hkept
    exact ((Canvas.fits_blank _).of_same hkept).clear

omit [Sub α] [OfInteger α] in
theorem performance_again (hraster : d.interpreter.rasterizer.KeepsMeasures)
    (config : AnimationConfig) (schedule : KnobSchedule α) (f : Nat) :
    d.performance config schedule f = (d.performance config schedule 0).again
      (d.tableAt schedule f) f (d.performance config schedule f).world := by
  have hcanvas := performance_canvas hraster config schedule f
  cases f with
  | zero => rfl
  | succ f =>
    simp only [performance, playing] at hcanvas ⊢
    rw [hcanvas]
    rfl

variable {config : AnimationConfig} {schedule : KnobSchedule α}

omit [One α] [Neg α] [NatCast α] [Circular α] [Farthest α] in
/-- Where no knob varies, the tables of all frames agree. -/
theorem tableAt_agree (hvary : ∀ v, .vary v ∉ d.operations) {n : Int}
    (hschedule : KnobSchedule.ofOperations d.operations n = .ok schedule)
    (ops : List (Operation α)) {f : Nat} (hf : f < n) :
    (d.tableAt schedule 0).AgreeOn ops (d.tableAt schedule f) := by
  have hlists := KnobSchedule.lists_ofOperations hschedule
  have hnone (name : String) (j : Int) :
      KnobSchedule.varyAt (KnobSchedule.varies d.operations) name j = none := by
    have hvaries : KnobSchedule.varies d.operations = [] := by
      rw [KnobSchedule.varies, List.filterMap_eq_nil_iff]
      intro op hop
      cases op with
      | vary v => exact absurd hop (hvary v)
      | _ => rfl
    rw [hvaries]
    rfl
  refine ⟨fun op _ name _ => ?_, fun op _ name _ => ?_⟩
  · unfold tableAt
    rw [hlists.knob?_of_uncovered (by omega) _ fun j _ => hnone name j,
      hlists.knob?_of_uncovered (by omega) _ fun j _ => hnone name j]
  · simp only [tableAt, SymbolTable.constants?, KnobSchedule.constants_tableAfter]

omit [Add α] [Sub α] [Mul α] [Div α] [Neg α] [NatCast α] [OfInteger α] [Circular α] in
theorem calls_enterFrame (schedule : KnobSchedule α) (f : Nat) (d : Director α σ) :
    (d.enterFrame schedule f).state.calls = d.calls := by
  unfold enterFrame
  cases d.prepareFrame f with
  | error => rfl
  | ok frame => cases schedule.entriesAt f <;> rfl

/-- How a frame looks once it is drawn, and what was asked for while it was. -/
structure Shows (index : Int) (canvas : Canvas α) (stack : OriginStack (Matrix4 α))
    (frame : Frame α) : Prop where
  index : frame.index = index
  canvas : frame.canvas = canvas
  stack : frame.stack = stack
  idle : frame.Idle

omit [Sub α] [OfInteger α] in
theorem Ready.shows {before : List (Event α)} {f : Nat}
    (h : d.Ready config schedule before f d') (hf : f < schedule.frames.size)
    (hok : d.Passes config schedule f) :
    let o := (d'.enterFrame schedule f).andThen interpretFrame
    let p := d.performance config schedule f
    o.fault? = none ∧
      o.state.calls =
        d'.calls ++ (p.callsBefore d.operations.length).filter d.interpreter.watches ∧
      ∃ frame, o.state.frame? = some frame ∧
        Shows f p.canvasAfter (p.stackBefore d.operations.length) frame := by
  intro o p
  obtain ⟨d'', stage, -, -, hstands, heq⟩ := h.entered hf
  have hrun := stands_run_take (k := d.operations.length) hstands (by simp) hok.1
  simp only [performance_interpreter, performance_symbols, performance_operations,
    List.take_length] at hrun
  obtain ⟨hfault, hdone⟩ := hrun
  have ho : o = _ := heq
  rw [ho]
  refine ⟨hfault, ?_, _, rfl, ?_, ?_, hdone.stack, hdone.idle⟩
  · have hcalls := hdone.toShown.asked.calls
    rw [performance_interpreter] at hcalls
    exact hcalls
  · exact hdone.index.trans (performance_index ..)
  · rw [hdone.canvas, canvasAfter, performance_operations]

/-- **Where no knob varies all frames are the same.** -/
theorem frames_of_run (hnew : d.frame? = none)
    (hraster : d.interpreter.rasterizer.KeepsMeasures) (hvary : ∀ v, .vary v ∉ d.operations)
    (hok : d.run.fault? = none) :
    ∃ config canvas stack asked, d.run.state.config? = some config ∧
      ∀ f : Nat, f < config.frameCount →
        let o := (d.entering f).andThen interpretFrame
        d.run = o.andThen (continuing config f) ∧ o.fault? = none ∧
        o.state.calls = (d.entering f).state.calls ++ asked ∧
        ∃ frame, o.state.frame? = some frame ∧ Shows f canvas stack frame := by
  have hcompile : d.compile.fault? = none := (Outcome.andThen_fault_none hok).1
  obtain ⟨config, schedule, hcount, hscheduleOf, hn, hprepared, hconfig, hrun⟩ :=
    exists_prepared hcompile
  have hschedule : d.compile.state.schedule? = some schedule := by rw [hprepared]
  obtain ⟨hframes, -⟩ := Outcome.andThen_fault_none (hrun ▸ hok)
  have hsize : 0 ≤ d.size := by
    by_contra hneg
    rw [hprepared.sequence hnew (by omega) (by omega)] at hframes
    cases hframes
  have hready := hprepared.ready hnew hsize rfl
  obtain ⟨-, hpass, hlast⟩ :
      _ ∧ (∀ f < config.frameCount.toNat, d.Passes config schedule f) ∧ _ := by
    rcases hready.frames hn with hdone | ⟨f, -, e, log, -, -, hfault, -⟩
    · exact hdone
    · rw [hframes] at hfault
      cases hfault
  let p := d.performance config schedule 0
  refine ⟨config, p.canvasAfter, p.stackBefore d.operations.length,
    (p.callsBefore d.operations.length).filter d.interpreter.watches, ?_, fun f hf => ?_⟩
  · rw [hrun, Outcome.andThen_of_none hframes]
    exact (config_of_fixed ((finish_state ..).1)).trans
      (congrArg (·.2.2.2.2.2.2.1) hlast.fixed)
  · obtain ⟨hfault, hready⟩ := hready.sequence (f := f) (by omega) fun g hg => hpass g (by omega)
    have hentering := entering_eq hcompile hconfig hschedule f
    rw [Outcome.andThen_of_none hfault] at hentering
    obtain ⟨hdrawn, hcalls, frame, hframe, hshows⟩ := hready.shows (by omega) (hpass f (by omega))
    have hagree := tableAt_agree hvary hscheduleOf d.operations (f := f) (by omega)
    have hagain := performance_again hraster config schedule f
    rw [hagain] at hcalls hshows
    simp only [canvasAfter] at hshows
    rw [callsBefore_again hagree] at hcalls
    rw [operations_again, canvasBefore_again hagree, stackBefore_again hagree] at hshows
    refine ⟨run_eq_entering hcompile hconfig hschedule hf, ?_, ?_, frame, ?_, hshows⟩
    · rw [hentering]
      exact hdrawn
    · rw [hentering, calls_enterFrame]
      exact hcalls
    · rw [hentering]
      exact hframe

/-- **Frames are isolated from one another.**  A frame that is rendered after any history has the
same calls, the same fault and the same canvas, stack and empty buffers as from an unused director
with the same operations, interpreter and size, as long as the tables agree on the names that are
read.  A run in which no knob varies draws the same frame again and again. -/
theorem renderFrame_isolated {R : σ → σ → Prop} (new d d' : Director α σ) (hnew : new.Unused)
    (hpast : Past new d) (hunused : d'.Unused) (hoperations : d'.operations = new.operations)
    (hinterpreter : d'.interpreter = new.interpreter) (hsize : d'.size = new.size)
    (hraster : new.interpreter.rasterizer.KeepsMeasures)
    (hexporter : new.interpreter.exporter.AnswersAlike R) (hworld : R d.world d'.world)
    (hagree : d.symbols.AgreeOn new.operations d'.symbols) :
    (∀ index, Isolated d d' (d.renderFrame index) (d'.renderFrame index)) ∧
    ((∀ v, .vary v ∉ new.operations) → d'.run.fault? = none →
      ∃ config canvas stack asked, d'.run.state.config? = some config ∧
        ∀ f : Nat, f < config.frameCount →
          let o := (d'.entering f).andThen interpretFrame
          d'.run = o.andThen (continuing config f) ∧ o.fault? = none ∧
          o.state.calls = (d'.entering f).state.calls ++ asked ∧
          ∃ frame, o.state.frame? = some frame ∧ Shows f canvas stack frame) := by
  refine ⟨fun index => ?_, fun hvary hok => ?_⟩
  · exact (hpast.restorable hnew hraster).rendered_alike
      (hunused.restorable hoperations hinterpreter hsize) hexporter hworld hagree index
  · exact frames_of_run hunused.2 (hinterpreter ▸ hraster) (hoperations ▸ hvary) hok

/-- A director that was asked for a frame it does not have and has then run through all of them,
with a system that is entered and never left, draws as a new one does. -/
theorem renderFrame_isolated_after_run :
    let new : Director Float Unit := {
      operations := [.frames 2, .push, .rotate .z 90 (some "turn"),
        .line ⟨0, 0, 0⟩ ⟨1, 0, 0⟩ none none none, .display]
      symbols := .empty
      interpreter := ⟨.silent, .silent, .default, 3, fun _ => true⟩
      settings := .ofEnvironment fun _ => none
      outputDir := .ofString "out"
      ext := "ppm"
      size := 2
      world := () }
    let used := (new.renderFrame 7).state.run.state
    let d := { used with symbols := used.symbols.setKnob "turn" 0.5 }
    let d' := { new with symbols := new.symbols.setKnob "turn" 0.5 }
    new.Unused ∧ Past new d ∧ d'.Unused ∧ d.symbols.AgreeOn new.operations d'.symbols ∧
      d'.run.fault? = none ∧ (d.renderFrame 1).fault? = (d'.renderFrame 1).fault? ∧
      ∃ frame frame', ((d'.entering 0).andThen interpretFrame).state.frame? = some frame ∧
        ((d'.entering 1).andThen interpretFrame).state.frame? = some frame' ∧
        frame.canvas = frame'.canvas := by
  intro new used d d'
  have hused : Past new used := .ran (.rendered .new 7)
  clear_value used
  have hpast : Past new d := .knobSet hused "turn" 0.5
  have hok : d'.run.fault? = none := Option.isNone_iff_eq_none.1 (by decide +kernel)
  have hagree : d.symbols.AgreeOn new.operations d'.symbols := by
    refine ⟨fun op hop name hname => ?_, fun op hop name hname => ?_⟩
    · -- the only knob that is read is the one that both have set
      have hturn : name = "turn" := by
        simp only [new, List.mem_cons, List.not_mem_nil, or_false] at hop
        rcases hop with rfl | rfl | rfl | rfl | rfl <;> simp_all [Operation.factor?]
      simp only [d, d', SymbolTable.knob?_setKnob, hturn, ↓reduceIte]
    · simp only [new, List.mem_cons, List.not_mem_nil, or_false] at hop
      rcases hop with rfl | rfl | rfl | rfl | rfl <;> cases hname
  obtain ⟨hisolated, hframes⟩ := renderFrame_isolated (R := (· = ·)) new d d' ⟨rfl, rfl⟩ hpast
    ⟨rfl, rfl⟩ rfl rfl rfl Rasterizer.keepsMeasures_silent (Exporter.answersAlike_eq _)
    (Subsingleton.elim ..) hagree
  obtain ⟨config, canvas, stack, asked, hconfig, hall⟩ := hframes (by simp [new]) hok
  have hcount : d'.run.state.config?.map (·.frameCount) = some 2 := by decide +kernel
  rw [hconfig] at hcount
  replace hcount : config.frameCount = 2 := Option.some.inj hcount
  obtain ⟨-, -, -, frame, hframe, hshows⟩ := hall 0 (by omega)
  obtain ⟨-, -, -, frame', hframe', hshows'⟩ := hall 1 (by omega)
  exact ⟨⟨rfl, rfl⟩, hpast, ⟨rfl, rfl⟩, hagree, hok, (hisolated 1).fault, frame, frame', hframe,
    hframe', hshows.canvas.trans hshows'.canvas.symm⟩

end Director

end Flipbook
