import Flipbook.Proofs.KnobTimeline
import Flipbook.Proofs.Outcome
import Flipbook.Stage.Director

/-!
# A run, frame by frame

A frame is drawn in two parts: the director enters it (`Director.enterFrame`: the frame is made
ready and its knobs are written), and then its operations are carried out
(`Director.interpretFrame`).  `Director.entering` is a whole run up to the point at which the
operations of a frame are about to be carried out, and `Director.run_eq_entering` says that the run
goes on from there.  Along the way only the symbols, the frame, the events and the world change
(`Director.fixed`), and the symbols change only as the schedule says
(`Director.symbols_entering`).  From this follows what every knob is while a frame is drawn
(`Director.knobs_of_run`).
-/

namespace Flipbook

namespace KnobSchedule

theorem entriesAt_natCast {α : Type} (s : KnobSchedule α) (i : Nat) :
    s.entriesAt i = match s.frames[i]? with
      | some entries => .ok entries
      | none => .error .noSuchFrame := by
  have hplace : (if (i : Int) < 0 then (i : Int) + s.size else i) = .ofNat i := if_neg (by omega)
  cases hentries : s.frames[i]? <;> simp only [entriesAt, hplace, hentries]

end KnobSchedule

theorem AnimationConfig.one_le_frameCount {α : Type} {ops : List (Operation α)} {name : String}
    {config : AnimationConfig} {notices : List Notice}
    (h : ofOperations ops name = .ok (config, notices)) : 1 ≤ config.frameCount := by
  unfold ofOperations at h
  dsimp only at h
  split at h
  · cases h
  · cases h
    exact Int.le_max_right ..

namespace Director

variable {α σ : Type}

/-! ### Saving -/

/-- Saves the frame that was drawn, in an animation. -/
def keepFrame (config : AnimationConfig) (index : Nat) (d : Director α σ) :
    Outcome (Director α σ) :=
  if config.isAnimation then d.saveFrame config index else .done d

/-- Has the frames put together, in an animation. -/
def finish (config : AnimationConfig) (d : Director α σ) : Outcome (Director α σ) :=
  if config.isAnimation then d.assemble config else .done d

/-! ### What stays the same -/

/-- What stays the same from the first frame to the last. -/
def fixed (d : Director α σ) : List (Operation α) × Interpreter α σ × Settings × PathName ×
    String × Int × Option AnimationConfig × Option (KnobSchedule α) :=
  (d.operations, d.interpreter, d.settings, d.outputDir, d.ext, d.size, d.config?, d.schedule?)

section Unchanged

variable {β : Type} (g : Director α σ → β)

theorem receive_preserves (hrecord : ∀ e d, g (record e d) = g d)
    (hworld : ∀ w d, g { d with world := w } = g d) (r : Report σ) (d : Director α σ) :
    g (d.receive r).state = g d := by
  have (ns : List Notice) (d : Director α σ) : g (ns.foldl tell d) = g d := by
    induction ns generalizing d with
    | nil => rfl
    | cons n ns ih => rw [List.foldl_cons, ih, tell, hrecord]
  exact (this ..).trans (hworld ..)

theorem keepFrame_preserves (hrecord : ∀ e d, g (record e d) = g d)
    (hworld : ∀ w d, g { d with world := w } = g d) (config : AnimationConfig) (index : Nat)
    (d : Director α σ) : g (d.keepFrame config index).state = g d := by
  unfold keepFrame saveFrame
  split
  · cases d.frame? with
    | none => rfl
    | some frame =>
      dsimp only
      cases FrameName.checkedIndex index with
      | error f => rfl
      | ok _ =>
        dsimp only [Fault.ofConversion, Except.mapError, Outcome.given]
        generalize hr : receive _ _ = o
        have ho : g o.state = g d := by
          rw [← hr, receive_preserves g hrecord hworld, hrecord]
        cases hfault : o.fault? with
        | some f => rw [Outcome.andThen_of_some hfault, ho]
        | none =>
          rw [Outcome.andThen_of_none hfault, Outcome.done_state]
          split
          · rw [tell, hrecord, ho]
          · exact ho
  · rfl

end Unchanged

@[simp] theorem fixed_record (e : Event α) (d : Director α σ) : (d.record e).fixed = d.fixed := by
  unfold record
  split <;> rfl

@[simp] theorem symbols_record (e : Event α) (d : Director α σ) :
    (d.record e).symbols = d.symbols := by
  unfold record
  split <;> rfl

theorem keepFrame_state (config : AnimationConfig) (index : Nat) (d : Director α σ) :
    (d.keepFrame config index).state.fixed = d.fixed ∧
      (d.keepFrame config index).state.symbols = d.symbols :=
  ⟨keepFrame_preserves fixed (fun e d => d.fixed_record e) (fun _ _ => rfl) ..,
    keepFrame_preserves symbols (fun e d => d.symbols_record e) (fun _ _ => rfl) ..⟩

theorem fixed_andThen {o : Outcome (Director α σ)}
    {next : Director α σ → Outcome (Director α σ)}
    (h : ∀ d, (next d).state.fixed = d.fixed) : (o.andThen next).state.fixed = o.state.fixed := by
  cases ho : o.fault? with
  | none => rw [Outcome.andThen_of_none ho, h]
  | some f => rw [Outcome.andThen_of_some ho]

theorem schedule_of_fixed {d d' : Director α σ} (h : d'.fixed = d.fixed) :
    d'.schedule? = d.schedule? := by
  simp only [fixed, Prod.mk.injEq] at h
  exact h.2.2.2.2.2.2.2

theorem config_of_fixed {d d' : Director α σ} (h : d'.fixed = d.fixed) :
    d'.config? = d.config? := by
  simp only [fixed, Prod.mk.injEq] at h
  exact h.2.2.2.2.2.2.1

theorem framePath_of_fixed {d d' : Director α σ} {config? : Option AnimationConfig}
    {schedule? : Option (KnobSchedule α)}
    (h : d'.fixed = (d.operations, d.interpreter, d.settings, d.outputDir, d.ext, d.size, config?,
      schedule?)) (c : AnimationConfig) (i : Int) : d'.framePath c i = d.framePath c i := by
  simp only [fixed, Prod.mk.injEq] at h
  obtain ⟨-, -, hsettings, houtput, hext, -⟩ := h
  rw [framePath, framePath, hsettings, houtput, hext]

theorem finish_state (config : AnimationConfig) (d : Director α σ) :
    (d.finish config).state.fixed = d.fixed ∧ (d.finish config).state.symbols = d.symbols := by
  unfold finish assemble
  split
  · refine ⟨?_, ?_⟩
    · rw [receive_preserves fixed (fun e d => d.fixed_record e) fun _ _ => rfl, tell,
        fixed_record, fixed_record]
    · rw [receive_preserves symbols (fun e d => d.symbols_record e) fun _ _ => rfl, tell,
        symbols_record, symbols_record]
  · exact ⟨rfl, rfl⟩

/-! ### What is told -/

theorem record_eq (e : Event α) (d : Director α σ) :
    d.record e = { d with events := (d.record e).events } := by
  unfold record
  split <;> rfl

@[simp] theorem frame_record (e : Event α) (d : Director α σ) :
    (d.record e).frame? = d.frame? := by
  rw [record_eq]

@[simp] theorem interpreter_record (e : Event α) (d : Director α σ) :
    (d.record e).interpreter = d.interpreter := by
  rw [record_eq]

@[simp] theorem world_record (e : Event α) (d : Director α σ) : (d.record e).world = d.world := by
  rw [record_eq]

theorem record_events (e : Event α) (d : Director α σ) :
    (d.record e).events.toList = d.events.toList ++ [e].filter d.interpreter.watches := by
  unfold record
  split
  · rename_i h
    simp [h]
  · rename_i h
    simp [h]

theorem foldl_tell (ns : List Notice) (d : Director α σ) :
    ns.foldl tell d = { d with events := (ns.foldl tell d).events } ∧
      (ns.foldl tell d).events.toList =
        d.events.toList ++ (ns.map Event.notice).filter d.interpreter.watches := by
  induction ns generalizing d with
  | nil => simp
  | cons n ns ih =>
    obtain ⟨h1, h2⟩ := ih (d.tell n)
    have hrecord := d.record_eq (.notice n)
    refine ⟨?_, ?_⟩
    · rw [List.foldl_cons, h1, tell, hrecord]
    · rw [List.foldl_cons, h2, tell, record_events, hrecord, List.append_assoc,
        ← List.filter_append]
      rfl

/-! ### Frames that are saved -/

/-- In an animation a frame that is there is handed to the exporter under its name, and then a line
of progress may follow. -/
theorem keepFrame_eq {d : Director α σ} {config : AnimationConfig}
    (hanimation : config.isAnimation = true) {frame : Frame α} (hframe : d.frame? = some frame)
    {index : Nat} (hindex : Text.isWritable index = true) :
    d.keepFrame config index =
      ((d.record (.save frame.canvas.picture (d.framePath config index).text)).receive
        (d.interpreter.exporter.save frame.canvas.picture (d.framePath config index).text
          d.world)).andThen fun d => .done
            (if index % d.settings.progressEvery = 0 then d.tell (.savingFrame index) else d) := by
  have hchecked : FrameName.checkedIndex index = .ok (index : Int) := if_pos hindex
  simp only [keepFrame, hanimation, ↓reduceIte, saveFrame, hframe, hchecked, Fault.ofConversion,
    Except.mapError, Outcome.given, interpreter_record, world_record]

theorem keepFrame_of_not {d : Director α σ} {config : AnimationConfig}
    (hanimation : config.isAnimation = true) {frame : Frame α} (hframe : d.frame? = some frame)
    {index : Nat} (hindex : Text.isWritable index = false) :
    d.keepFrame config index = .failed d (.conversion .tooManyDigits) := by
  have hchecked : FrameName.checkedIndex index = .error .tooManyDigits :=
    if_neg (Bool.eq_false_iff.1 hindex)
  simp only [keepFrame, hanimation, ↓reduceIte, saveFrame, hframe, hchecked, Fault.ofConversion,
    Except.mapError, Outcome.given]

/-! ### The parts of a frame -/

variable [Zero α] [One α] [Farthest α]
variable {d : Director α σ} {config : AnimationConfig} {schedule : KnobSchedule α} {f : Nat}

/-- Makes a frame ready and writes the knobs of its number. -/
def enterFrame (schedule : KnobSchedule α) (index : Nat) (d : Director α σ) :
    Outcome (Director α σ) :=
  match d.prepareFrame index with
  | .error f => .failed d f
  | .ok frame =>
    let d := { d with frame? := some frame }
    match schedule.entriesAt index with
    | .error f => .failed d f
    | .ok entries => .done { d with symbols := d.symbols.applyEntries entries }

theorem fixed_enterFrame (schedule : KnobSchedule α) (index : Nat) (d : Director α σ) :
    (d.enterFrame schedule index).state.fixed = d.fixed := by
  unfold enterFrame
  cases d.prepareFrame index with
  | error f => rfl
  | ok frame => cases schedule.entriesAt index <;> rfl

theorem symbols_enterFrame (hok : (d.enterFrame schedule f).fault? = none) :
    ∃ entries, schedule.frames[f]? = some entries ∧
      (d.enterFrame schedule f).state.symbols = d.symbols.applyEntries entries := by
  unfold enterFrame at hok ⊢
  cases hframe : d.prepareFrame f with
  | error => rw [hframe] at hok; cases hok
  | ok frame =>
    rw [hframe] at hok
    cases hentries : schedule.frames[f]? with
    | none =>
      rw [schedule.entriesAt_natCast, hentries] at hok
      cases hok
    | some entries =>
      rw [schedule.entriesAt_natCast, hentries]
      exact ⟨entries, rfl, rfl⟩

variable [Add α] [Mul α] [Neg α] [Div α] [NatCast α] [Circular α]

/-- Carries out the operations for the frame that is ready. -/
def interpretFrame (d : Director α σ) : Outcome (Director α σ) :=
  match d.frame? with
  | none => .done d
  | some frame => (d.interpreter.run d.symbols d.operations (d.stage frame)).map d.ofStage

omit [Farthest α] in
theorem interpretFrame_state (d : Director α σ) : d.interpretFrame.state.fixed = d.fixed ∧
    d.interpretFrame.state.symbols = d.symbols := by
  unfold interpretFrame
  cases d.frame? <;> exact ⟨rfl, rfl⟩

theorem drawFrame_eq (schedule : KnobSchedule α) (index : Nat) (d : Director α σ) :
    d.drawFrame schedule index = (d.enterFrame schedule index).andThen interpretFrame := by
  unfold drawFrame enterFrame
  cases d.prepareFrame index with
  | error f => rfl
  | ok frame => cases schedule.entriesAt index <;> rfl

variable [Sub α] [OfInteger α]

theorem produceFrame_eq {d : Director α σ} {schedule : KnobSchedule α}
    (h : d.schedule? = some schedule) (config : AnimationConfig) (index : Nat) :
    produceFrame config index d =
      ((d.enterFrame schedule index).andThen interpretFrame).andThen (keepFrame config index) := by
  unfold produceFrame renderFrame
  rw [h]
  exact congrArg (Outcome.andThen · _) (drawFrame_eq ..)

theorem fixed_produceFrame {d : Director α σ} {schedule : KnobSchedule α}
    (h : d.schedule? = some schedule) (config : AnimationConfig) (index : Nat) :
    (produceFrame config index d).state.fixed = d.fixed := by
  rw [produceFrame_eq h, fixed_andThen fun d => (d.keepFrame_state config index).1,
    fixed_andThen fun d => d.interpretFrame_state.1, fixed_enterFrame]

/-! ### Symbols from frame to frame -/

/-- After a number of frames the knobs are those of the schedule. -/
theorem symbols_sequence (h : d.schedule? = some schedule)
    (hok : (Outcome.sequence (produceFrame config) (List.range f) d).fault? = none) :
    (Outcome.sequence (produceFrame config) (List.range f) d).state.fixed = d.fixed ∧
      (Outcome.sequence (produceFrame config) (List.range f) d).state.symbols =
        schedule.tableAfter d.symbols f := by
  induction f with
  | zero => exact ⟨rfl, rfl⟩
  | succ f ih =>
    rw [List.range_succ, Outcome.sequence_append] at hok ⊢
    obtain ⟨hbefore, hlast⟩ := Outcome.andThen_fault_none hok
    rw [Outcome.andThen_of_none hbefore, Outcome.sequence_singleton]
    rw [Outcome.sequence_singleton] at hlast
    obtain ⟨hfixed, hsymbols⟩ := ih hbefore
    have hschedule := (schedule_of_fixed hfixed).trans h
    refine ⟨(fixed_produceFrame hschedule ..).trans hfixed, ?_⟩
    rw [produceFrame_eq hschedule] at hlast ⊢
    obtain ⟨hdrawn, -⟩ := Outcome.andThen_fault_none hlast
    obtain ⟨hentered, -⟩ := Outcome.andThen_fault_none hdrawn
    obtain ⟨entries, hentries, hsymbols'⟩ := symbols_enterFrame hentered
    -- once the frame is entered, neither its operations nor its saving write symbols
    rw [Outcome.andThen_of_none hdrawn, (keepFrame_state ..).2, Outcome.andThen_of_none hentered,
      (interpretFrame_state _).2, hsymbols', hsymbols, KnobSchedule.tableAfter_succ hentries]

/-! ### The points of a run -/

/-- The run up to the point at which the operations of frame `f` are about to be carried out. -/
def entering (d : Director α σ) (f : Nat) : Outcome (Director α σ) :=
  d.compile.andThen fun d => match d.config?, d.schedule? with
    | some config, some schedule =>
      (Outcome.sequence (produceFrame config) (List.range f) d).andThen (enterFrame schedule f)
    | _, _ => .done d

/-- What follows in a run once the operations of frame `f` have been carried out. -/
def continuing (config : AnimationConfig) (f : Nat) (d : Director α σ) : Outcome (Director α σ) :=
  (d.keepFrame config f).andThen fun d =>
    (Outcome.sequence (produceFrame config)
      ((List.range config.frameCount.toNat).drop (f + 1)) d).andThen (finish config)

/-- What is told when a script is prepared. -/
def preparation (d : Director α σ) (notices : List Notice) : List Notice :=
  notices ++ match (d.symbols.declareKnobs d.operations).2 with
    | [] => []
    | names => [.knobsDeclared names]

omit [One α] [Farthest α] [Neg α] [NatCast α] [Circular α] in
/-- What preparing leaves behind. -/
theorem compile_spec (hok : d.compile.fault? = none) :
    ∃ config notices schedule,
      AnimationConfig.ofOperations d.operations d.settings.defaultBasename =
        .ok (config, notices) ∧
      KnobSchedule.ofOperations d.operations config.frameCount = .ok schedule ∧
      d.compile.state = { d with
        symbols := (d.symbols.declareKnobs d.operations).1
        config? := some config
        schedule? := some schedule
        events := d.compile.state.events } ∧
      d.compile.state.events.toList = d.events.toList ++
        ((d.preparation notices).map Event.notice).filter d.interpreter.watches := by
  unfold compile at hok ⊢
  cases hconfig : AnimationConfig.ofOperations d.operations d.settings.defaultBasename with
  | error => rw [hconfig] at hok; cases hok
  | ok result =>
    obtain ⟨config, notices⟩ := result
    rw [hconfig] at hok
    obtain ⟨htold, hevents⟩ := foldl_tell notices d
    dsimp only at hok ⊢
    rw [htold] at hok ⊢
    cases hschedule : KnobSchedule.ofOperations d.operations config.frameCount with
    | error => rw [hschedule] at hok; cases hok
    | ok schedule =>
      refine ⟨config, notices, schedule, rfl, hschedule, ?_⟩
      unfold preparation
      rcases hdeclared : d.symbols.declareKnobs d.operations with ⟨symbols, names⟩
      cases names with
      | nil =>
        refine ⟨rfl, ?_⟩
        rw [List.append_nil]
        exact hevents
      | cons name names =>
        simp only [List.isEmpty_cons, Bool.false_eq_true, ↓reduceIte, Outcome.done_state, tell]
        rw [record_eq]
        refine ⟨rfl, ?_⟩
        rw [record_events, hevents, List.map_append, List.filter_append, List.append_assoc]
        rfl

theorem run_eq_produce (hok : d.compile.fault? = none)
    (hconfig : d.compile.state.config? = some config) :
    d.run = ((Outcome.sequence (produceFrame config) (List.range config.frameCount.toNat)
      d.compile.state).andThen (finish config)) := by
  unfold run
  rw [Outcome.andThen_of_none hok, hconfig]
  rfl

theorem entering_eq (hok : d.compile.fault? = none)
    (hconfig : d.compile.state.config? = some config)
    (hschedule : d.compile.state.schedule? = some schedule) (f : Nat) :
    d.entering f = (Outcome.sequence (produceFrame config) (List.range f)
      d.compile.state).andThen (enterFrame schedule f) := by
  unfold entering
  rw [Outcome.andThen_of_none hok, hconfig, hschedule]

/-- **A run passes through every one of its frames.** -/
theorem run_eq_entering (hok : d.compile.fault? = none)
    (hconfig : d.compile.state.config? = some config)
    (hschedule : d.compile.state.schedule? = some schedule) (hf : f < config.frameCount) :
    d.run = ((d.entering f).andThen interpretFrame).andThen (continuing config f) := by
  -- the frames before `f`, then `f`, then those after it
  have hsplit : List.range config.frameCount.toNat =
      List.range f ++ f :: (List.range config.frameCount.toNat).drop (f + 1) := by
    conv_lhs => rw [← List.take_append_drop f (List.range config.frameCount.toNat)]
    rw [List.take_range, Nat.min_eq_left (by omega), List.drop_eq_getElem_cons (by simp; omega),
      List.getElem_range]
  rw [run_eq_produce hok hconfig, entering_eq hok hconfig hschedule, hsplit,
    Outcome.sequence_append]
  cases hbefore : (Outcome.sequence (produceFrame config) (List.range f)
      d.compile.state).fault? with
  | some e =>
    simp only [Outcome.andThen_of_some hbefore]
  | none =>
    have hfixed := (symbols_sequence hschedule hbefore).1
    rw [Outcome.andThen_of_none hbefore, Outcome.andThen_of_none hbefore, Outcome.sequence_cons,
      produceFrame_eq ((schedule_of_fixed hfixed).trans hschedule), Outcome.andThen_assoc,
      Outcome.andThen_assoc]
    rfl

theorem symbols_entering (hok : d.compile.fault? = none)
    (hconfig : d.compile.state.config? = some config)
    (hschedule : d.compile.state.schedule? = some schedule)
    (hentered : (d.entering f).fault? = none) :
    (d.entering f).state.symbols = schedule.tableAfter d.compile.state.symbols (f + 1) := by
  rw [entering_eq hok hconfig hschedule] at hentered ⊢
  obtain ⟨hbefore, hlast⟩ := Outcome.andThen_fault_none hentered
  obtain ⟨entries, hentries, hsymbols⟩ := symbols_enterFrame hlast
  rw [Outcome.andThen_of_none hbefore, hsymbols, (symbols_sequence hschedule hbefore).2,
    KnobSchedule.tableAfter_succ hentries]

/-- **What a knob is while a frame is drawn.** -/
theorem knobs_of_run (d : Director α σ) (hok : d.run.fault? = none) :
    ∃ config, d.run.state.config? = some config ∧
      d.run.state.symbols.constants = d.symbols.constants ∧
      (∀ name : String, (∀ op ∈ d.operations, op.knob? ≠ some name) →
        d.run.state.symbols.knob? name = d.symbols.knob? name) ∧
      ∀ f : Nat, f < config.frameCount →
        let t := (d.entering f).state.symbols
        d.run = ((d.entering f).andThen interpretFrame).andThen (continuing config f) ∧
        (d.entering f).fault? = none ∧
        ((d.entering f).andThen interpretFrame).state.symbols = t ∧
        t.constants = d.symbols.constants ∧
        (∀ (name : String) (j : Int) (v : Vary α), j ≤ f →
          KnobSchedule.varyAt (KnobSchedule.varies d.operations) name j = some v →
          (∀ i : Int, j < i → i ≤ f →
            KnobSchedule.varyAt (KnobSchedule.varies d.operations) name i = none) →
          ∃ x, v.valueAt j = .ok x ∧ t.knob? name = some x) ∧
        (∀ name : String,
          (∀ j : Int, j ≤ f →
            KnobSchedule.varyAt (KnobSchedule.varies d.operations) name j = none) →
          t.knob? name = (d.symbols.knob? name).or
            (if ∃ op ∈ d.operations, op.knob? = some name then some 0 else none)) ∧
        ∀ name : String, (∀ op ∈ d.operations, op.knob? ≠ some name) →
          t.knob? name = d.symbols.knob? name := by
  have hcompile : d.compile.fault? = none := (Outcome.andThen_fault_none hok).1
  obtain ⟨config, notices, schedule, hofScript, hofOperations, hstate, -⟩ :=
    compile_spec hcompile
  have hconfig : d.compile.state.config? = some config := by rw [hstate]
  have hschedule : d.compile.state.schedule? = some schedule := by rw [hstate]
  have hdeclared : d.compile.state.symbols = (d.symbols.declareKnobs d.operations).1 := by
    rw [hstate]
  have hlists := KnobSchedule.lists_ofOperations hofOperations
  have hrun := run_eq_produce hcompile hconfig
  obtain ⟨hframes, -⟩ := Outcome.andThen_fault_none (hrun ▸ hok)
  obtain ⟨hfixed, hsymbols⟩ := symbols_sequence hschedule hframes
  rw [hdeclared] at hsymbols
  -- the end of the run writes no symbols, so the last table is that after the last frame
  have hlast : d.run.state.symbols = schedule.tableAfter (d.symbols.declareKnobs d.operations).1
      config.frameCount.toNat := by
    rw [hrun, Outcome.andThen_of_none hframes, (finish_state ..).2, hsymbols]
  have hcount := AnimationConfig.one_le_frameCount hofScript
  refine ⟨config, ?_, ?_, fun name hunnamed => ?_, fun f hf => ?_⟩
  · rw [hrun, Outcome.andThen_of_none hframes, config_of_fixed ((finish_state ..).1.trans hfixed),
      hconfig]
  · rw [hlast, KnobSchedule.constants_declared]
  · rw [hlast, hlists.knob?_of_unnamed (by omega) _ hunnamed]
  · have hsplit := run_eq_entering hcompile hconfig hschedule hf
    have hinterpreted := (Outcome.andThen_fault_none (hsplit ▸ hok)).1
    have hentered := (Outcome.andThen_fault_none hinterpreted).1
    have htable := symbols_entering hcompile hconfig hschedule hentered
    rw [hdeclared] at htable
    refine ⟨hsplit, hentered, ?_, ?_, fun name j v hj hv hlater => ?_, fun name hnone => ?_,
      fun name hunnamed => ?_⟩
    · rw [Outcome.andThen_of_none hentered]
      exact (interpretFrame_state _).2
    · rw [htable, KnobSchedule.constants_declared]
    · obtain ⟨j, rfl⟩ := Int.eq_ofNat_of_zero_le (hlists.nonneg_of_varyAt hv)
      rw [htable]
      exact hlists.knob?_of_covered hf _ (by omega) hv fun i hji hif =>
        hlater i (by omega) (by omega)
    · rw [htable, hlists.knob?_declared (by omega) _ fun j hj => hnone j (by omega)]
    · rw [htable, hlists.knob?_of_unnamed (by omega) _ hunnamed]

/-- Two ranges of a knob that overlap and end before the last frame. -/
theorem knobs_of_run_overlapping :
    let d : Director Float Unit := {
      operations := [.frames 4, .vary ⟨"turn", 1, 2, 0, 10⟩, .vary ⟨"turn", 2, 2, 7, 7⟩,
        .rotate .y 90 (some "turn"), .display]
      symbols := ⟨.ofList [("size", 2)], .empty⟩
      interpreter := ⟨.silent, .silent, .default, 3, fun _ => true⟩
      settings := .ofEnvironment fun _ => none
      outputDir := .ofString "out"
      ext := "ppm"
      size := 2
      world := () }
    d.run.fault? = none ∧ ∃ x, (⟨"turn", 2, 2, 7, 7⟩ : Vary Float).valueAt 2 = .ok x ∧
      (d.entering 3).state.symbols.knob? "turn" = some x := by
  intro d
  have hok : d.run.fault? = none := Option.isNone_iff_eq_none.1 (by decide +kernel)
  obtain ⟨config, hconfig, -, -, h⟩ := d.knobs_of_run hok
  have hcount : d.run.state.config?.map (·.frameCount) = some 4 := by decide +kernel
  have hlast : (3 : Nat) < config.frameCount := by
    rw [hconfig] at hcount
    rw [show config.frameCount = 4 from Option.some.inj hcount]
    decide
  obtain ⟨-, -, -, -, hcovered, -⟩ := h 3 hlast
  refine ⟨hok, hcovered "turn" 2 _ (by decide) rfl fun i h2 h3 => ?_⟩
  obtain rfl : i = 3 := by omega
  rfl

end Director

end Flipbook
