import Flipbook.Proofs.Interpretation
import Flipbook.Proofs.RunLog

/-!
# A director does what the log says

Between two frames a director has done what the log says of the frames before
(`Director.Ready`).  Producing the next frame leads to the place after it, unless an operation of
the frame or the exporter stops; then the run ends there, with the log cut off at that place
(`Director.Ready.produced`, `Director.Ready.refused`, `Director.Ready.stopped`).  By induction
this holds of every run from its preparation to its end (`Director.trace_of_run`).
-/

namespace Flipbook

namespace Director

open Interpreter Performance

variable {α σ : Type} (d : Director α σ) (config : AnimationConfig) (schedule : KnobSchedule α)
variable (before : List (Event α))

/-- A director that was prepared and has then done what a log says. -/
structure After (log : List (Event α)) (d' : Director α σ) : Prop where
  fixed : d'.fixed = (d.operations, d.interpreter, d.settings, d.outputDir, d.ext, d.size,
    some config, some schedule)
  events : d'.events.toList = before ++ log.filter d.interpreter.watches
  world : d'.world = d.interpreter.worldAfter log d.world

variable {d config schedule before} {log : List (Event α)} {d' : Director α σ}

/-! ### What is told and handed over -/

theorem After.interpreter_eq (h : d.After config schedule before log d') :
    d'.interpreter = d.interpreter := congrArg (·.2.1) h.fixed

theorem After.settings_eq (h : d.After config schedule before log d') :
    d'.settings = d.settings := congrArg (·.2.2.1) h.fixed

theorem After.schedule_eq (h : d.After config schedule before log d') :
    d'.schedule? = some schedule := congrArg (·.2.2.2.2.2.2.2) h.fixed

theorem After.framePath_eq (h : d.After config schedule before log d') (c : AnimationConfig)
    (i : Int) : d'.framePath c i = d.framePath c i := framePath_of_fixed h.fixed c i

theorem After.tell (h : d.After config schedule before log d') (n : Notice) :
    d.After config schedule before (log ++ [.notice n]) (d'.tell n) where
  fixed := (fixed_record ..).trans h.fixed
  events := by
    rw [Director.tell, record_events, h.events, h.interpreter_eq, List.append_assoc,
      ← List.filter_append]
  world := by
    rw [Director.tell, record_eq, worldAfter_append, ← h.world]
    rfl

theorem After.handOver (h : d.After config schedule before log d') (e : Event α) :
    d.After config schedule before
      (log ++ e :: (d.interpreter.handOver e d'.world).notices.map .notice)
      ((d'.record e).receive (d.interpreter.handOver e d'.world)).state := by
  obtain ⟨htold, hevents⟩ := foldl_tell (d.interpreter.handOver e d'.world).notices
    { d'.record e with world := (d.interpreter.handOver e d'.world).world }
  refine ⟨?_, ?_, ?_⟩
  · rw [receive_preserves Director.fixed (fun e d => d.fixed_record e) fun _ _ => rfl, fixed_record,
      h.fixed]
  · refine hevents.trans ?_
    rw [record_eq]
    simp only [record_events, h.events, h.interpreter_eq, List.append_assoc, ← List.filter_append]
    rfl
  · refine (congrArg Director.world htold).trans ?_
    rw [worldAfter_append, ← h.world, worldAfter_cons, worldAfter_notices]

theorem After.summary (h : d.After config schedule before log d') :
    RenderSummary.ofDirector? d' = some ⟨config, d.framePaths config⟩ := by
  have hconfig : d'.config? = some config := congrArg (·.2.2.2.2.2.2.1) h.fixed
  simp only [RenderSummary.ofDirector?, hconfig, Option.map_some, framePaths, h.framePath_eq]

/-! ### Between two frames -/

variable [Zero α] [One α] [Add α] [Mul α] [Div α] [Neg α] [NatCast α] [Circular α] [Farthest α]

variable (d config schedule before)

/-- The director has finished the frames before frame `f`. -/
structure Ready (f : Nat) (d' : Director α σ) : Prop
    extends d.After config schedule before (d.logBefore config schedule f) d' where
  symbols : d'.symbols = schedule.tableAfter (d.symbols.declareKnobs d.operations).1 f
  frame : ∃ frame, d'.prepareFrame f = .ok frame ∧ frame.index = f ∧ frame.Idle ∧
    frame.canvas = (d.performance config schedule f).canvas ∧ frame.stack = .single .identity

/-- The director has carried out the operations for frame `f`. -/
structure Drawn (f : Nat) (d' : Director α σ) : Prop
    extends d.After config schedule before
      (d.logBefore config schedule f ++ (d.performance config schedule f).told) d' where
  symbols : d'.symbols = d.tableAt schedule f
  frame : ∃ frame, d'.frame? = some frame ∧ frame.Idle ∧
    frame.canvas = (d.performance config schedule f).canvasAfter

variable {d config schedule before} {f : Nat}

/-! ### Drawing a frame -/

/-- What is left once the operations of a frame have been carried out up to some position. -/
theorem After.ofStage (h : d.After config schedule before (d.logBefore config schedule f) d')
    {d'' : Director α σ} (hfixed : d''.fixed = d'.fixed) {k : Nat} {s : Stage α σ}
    (hs : (d.performance config schedule f).Shown d'.events.toList k s) :
    d.After config schedule before
      (d.logBefore config schedule f ++ (d.performance config schedule f).toldBefore k)
      (d''.ofStage s) where
  fixed := hfixed.trans h.fixed
  events := by
    have hevents := hs.events
    rw [h.events, performance_interpreter, List.append_assoc, ← List.filter_append] at hevents
    exact hevents
  world := by
    have hworld := (d.performance config schedule f).worldAfter_toldBefore k
    rw [performance_interpreter] at hworld
    rw [Interpreter.worldAfter_append, worldAfter_logBefore, hworld]
    exact hs.world

theorem Ready.entered (h : d.Ready config schedule before f d') (hf : f < schedule.frames.size) :
    ∃ (d'' : Director α σ) (s : Stage α σ), d''.fixed = d'.fixed ∧
      d''.symbols = d.tableAt schedule f ∧
      (d.performance config schedule f).Stands d'.events.toList 0 s ∧
      (d'.enterFrame schedule f).andThen interpretFrame =
        (d.interpreter.run (d.tableAt schedule f) d.operations s).map d''.ofStage := by
  obtain ⟨frame, hframe, hindex, hidle, hcanvas, hstack⟩ := h.frame
  have hentries := Array.getElem?_eq_getElem hf
  have htable : d'.symbols.applyEntries schedule.frames[f] = d.tableAt schedule f := by
    rw [h.symbols, tableAt, KnobSchedule.tableAfter_succ hentries]
  have hoperations : d'.operations = d.operations := congrArg (·.1) h.fixed
  refine ⟨{ d' with frame? := some frame, symbols := d.tableAt schedule f },
    ⟨frame, d'.events, d'.world⟩, rfl, rfl, ⟨⟨?_, hidle, hcanvas, ?_, ?_⟩, hstack⟩, ?_⟩
  · rw [hindex, performance_index]
  · rw [h.world, worldAfter_logBefore, worldBefore_zero]
  · rw [toldBefore_zero, List.filter_nil, List.append_nil]
  · -- the table of the frame is the one that its entries have been written to
    have henter : d'.enterFrame schedule f =
        .done { d' with frame? := some frame, symbols := d.tableAt schedule f } := by
      rw [enterFrame, hframe, schedule.entriesAt_natCast, hentries, ← htable]
    rw [henter, Outcome.done_andThen, ← h.interpreter_eq, ← hoperations]
    rfl

theorem Ready.drawn (h : d.Ready config schedule before f d') (hf : f < schedule.frames.size)
    (hok : ∀ i < d.operations.length, (d.performance config schedule f).faultAt i = none) :
    ((d'.enterFrame schedule f).andThen interpretFrame).fault? = none ∧
      d.Drawn config schedule before f
        ((d'.enterFrame schedule f).andThen interpretFrame).state := by
  obtain ⟨d'', s, hfixed, hsymbols, hstands, heq⟩ := h.entered hf
  have hrun := stands_run_take (k := d.operations.length) hstands (by simp) hok
  simp only [performance_interpreter, performance_symbols, performance_operations,
    List.take_length] at hrun
  obtain ⟨hfault, hstands'⟩ := hrun
  have hafter := h.toAfter.ofStage hfixed hstands'.toShown
  rw [heq]
  refine ⟨hfault, ⟨?_, hsymbols, _, rfl, hstands'.idle, ?_⟩⟩
  · rw [told, performance_operations]
    exact hafter
  · rw [canvasAfter, performance_operations]
    exact hstands'.canvas

theorem Ready.refused (h : d.Ready config schedule before f d') (hf : f < schedule.frames.size)
    {i : Nat} (hok : ∀ j < i, (d.performance config schedule f).faultAt j = none) {e : Fault}
    (he : (d.performance config schedule f).faultAt i = some e) :
    ((d'.enterFrame schedule f).andThen interpretFrame).fault? = some e ∧
      d.After config schedule before
        (d.logBefore config schedule f ++ (d.performance config schedule f).toldBefore (i + 1))
        ((d'.enterFrame schedule f).andThen interpretFrame).state := by
  obtain ⟨d'', s, hfixed, -, hstands, heq⟩ := h.entered hf
  have hrun := run_stops hstands hok he
  simp only [performance_interpreter, performance_symbols, performance_operations] at hrun
  obtain ⟨-, hfault, hshown, -⟩ := hrun
  rw [heq]
  exact ⟨hfault, h.toAfter.ofStage hfixed hshown⟩

/-! ### Saving a frame -/

theorem Drawn.ready_succ (h : d.Drawn config schedule before f d') {d'' : Director α σ}
    (hafter : d.After config schedule before (d.logBefore config schedule (f + 1)) d'')
    (hsymbols : d''.symbols = d'.symbols) (hframe : d''.frame? = d'.frame?) :
    d.Ready config schedule before (f + 1) d'' := by
  obtain ⟨frame, hframe', hidle, hcanvas⟩ := h.frame
  refine ⟨hafter, hsymbols.trans h.symbols, frame.reset (f + 1 : Nat), ?_, rfl, hidle.reset _,
    congrArg Canvas.clear hcanvas, rfl⟩
  rw [prepareFrame, hframe, hframe']

/-- In an animation the picture of a drawn frame is handed to the exporter, and then a line of
progress may follow. -/
theorem Drawn.saved (h : d.Drawn config schedule before f d')
    (hanimation : config.isAnimation = true) (hindex : Text.isWritable f = true) :
    ∃ o : Outcome (Director α σ), d'.keepFrame config f = o.andThen (fun d'' =>
        .done (if f % d.settings.progressEvery = 0 then d''.tell (.savingFrame f) else d'')) ∧
      o.fault? = (d.keepingAt config schedule f).fault? ∧
      d.After config schedule before
        (d.logBefore config schedule f ++ d.savedLog config schedule f) o.state := by
  obtain ⟨frame, hframe, hidle, hcanvas⟩ := h.frame
  have hworld : d'.world = (d.performance config schedule f).worldAfter := by
    rw [h.world, Interpreter.worldAfter_append, worldAfter_logBefore, told,
      ← d.performance_interpreter config schedule f]
    exact Performance.worldAfter_toldBefore ..
  -- the call stays folded until its report and its log are known
  generalize hcall : Event.save (d.performance config schedule f).canvasAfter.picture
    (d.framePath config f).text = call
  have hreport : d.interpreter.handOver call d'.world = d.keepingAt config schedule f := by
    rw [← hcall, hworld, keepingAt, keeping, if_pos hanimation, Interpreter.handOver]
  have hlog : d.savedLog config schedule f = (d.performance config schedule f).told ++
      call :: (d.keepingAt config schedule f).notices.map .notice := by
    simp [savedLog, keptCalls, hanimation, hcall]
  have hafter := h.toAfter.handOver call
  rw [hreport, List.append_assoc, ← hlog] at hafter
  refine ⟨(d'.record call).receive (d.keepingAt config schedule f), ?_, rfl, hafter⟩
  have hkeep : d'.keepFrame config f =
      ((d'.record call).receive (d.keepingAt config schedule f)).andThen fun d'' =>
        .done (if f % d''.settings.progressEvery = 0 then d''.tell (.savingFrame f) else d'') := by
    rw [keepFrame_eq hanimation hframe hindex, hcanvas, h.framePath_eq, h.interpreter_eq, ← hreport,
      ← hcall]
    rfl
  rw [hkeep]
  cases ho : ((d'.record call).receive (d.keepingAt config schedule f)).fault? with
  | some e => rw [Outcome.andThen_of_some ho, Outcome.andThen_of_some ho]
  | none =>
    rw [Outcome.andThen_of_none ho, Outcome.andThen_of_none ho, hafter.settings_eq]

theorem Drawn.kept (h : d.Drawn config schedule before f d')
    (hindex : config.isAnimation = true → Text.isWritable f = true)
    (hok : (d.keepingAt config schedule f).fault? = none) :
    (d'.keepFrame config f).fault? = none ∧
      d.Ready config schedule before (f + 1) (d'.keepFrame config f).state := by
  cases hanimation : config.isAnimation with
  | false =>
    have hkeep : d'.keepFrame config f = .done d' := by simp [keepFrame, hanimation]
    have hlog : d.frameLog config schedule f = (d.performance config schedule f).told := by
      simp [frameLog, savedLog, keptCalls, keepingAt, keeping, progress, hanimation]
    rw [hkeep]
    refine ⟨rfl, h.ready_succ ?_ rfl rfl⟩
    rw [logBefore_succ, hlog]
    exact h.toAfter
  | true =>
    obtain ⟨o, hkeep, hfault, hafter⟩ := h.saved hanimation (hindex hanimation)
    have hframe : (d'.keepFrame config f).state.frame? = d'.frame? :=
      keepFrame_preserves Director.frame? (fun e d => d.frame_record e) (fun _ _ => rfl) ..
    have hstate : (d'.keepFrame config f) = .done (if f % d.settings.progressEvery = 0
        then o.state.tell (.savingFrame f) else o.state) := by
      rw [hkeep, Outcome.andThen_of_none (hfault.trans hok)]
    refine ⟨congrArg Outcome.fault? hstate, h.ready_succ ?_ (keepFrame_state ..).2 hframe⟩
    -- a line of progress ends the log of the frame, where there is one
    rw [logBefore_succ, frameLog, progress, hstate, Outcome.done_state]
    by_cases hevery : f % d.settings.progressEvery = 0
    · rw [if_pos hevery, if_pos ⟨hanimation, hevery⟩, ← List.append_assoc]
      exact hafter.tell _
    · rw [if_neg hevery, if_neg fun h => hevery h.2, List.map_nil, List.append_nil]
      exact hafter

theorem Drawn.unnamed (h : d.Drawn config schedule before f d')
    (hanimation : config.isAnimation = true) (hindex : Text.isWritable f = false) :
    (d'.keepFrame config f).fault? = some (.conversion .tooManyDigits) ∧
      d.After config schedule before
        (d.logBefore config schedule f ++ (d.performance config schedule f).told)
        (d'.keepFrame config f).state := by
  obtain ⟨frame, hframe, -⟩ := h.frame
  rw [keepFrame_of_not hanimation hframe hindex]
  exact ⟨rfl, h.toAfter⟩

theorem Drawn.stopped (h : d.Drawn config schedule before f d')
    (hindex : config.isAnimation = true → Text.isWritable f = true) {e : Fault}
    (he : (d.keepingAt config schedule f).fault? = some e) :
    (d'.keepFrame config f).fault? = some e ∧
      d.After config schedule before
        (d.logBefore config schedule f ++ d.savedLog config schedule f)
        (d'.keepFrame config f).state := by
  have hanimation : config.isAnimation = true := by
    by_contra hsingle
    simp [keepingAt, keeping, hsingle] at he
  obtain ⟨o, hkeep, hfault, hafter⟩ := h.saved hanimation (hindex hanimation)
  rw [hkeep, Outcome.andThen_of_some (hfault.trans he)]
  exact ⟨hfault.trans he, hafter⟩

/-! ### Producing a frame -/

variable (d config schedule f) in
/-- Neither an operation nor the exporter stops in frame `f`, whose number is short enough for a
name if it is saved. -/
def Passes : Prop :=
  (∀ i < d.operations.length, (d.performance config schedule f).faultAt i = none) ∧
    (config.isAnimation = true → Text.isWritable f = true) ∧
    (d.keepingAt config schedule f).fault? = none

variable (d config schedule f) in
/-- Frame `f` stops with the fault `e` and leaves the log `log`: at an operation, for want of a
name, or once its picture was handed to the exporter. -/
def StopsWith (e : Fault) (log : List (Event α)) : Prop :=
  (∃ i < d.operations.length,
    (∀ j < i, (d.performance config schedule f).faultAt j = none) ∧
    (d.performance config schedule f).faultAt i = some e ∧
    log = d.logBefore config schedule f ++
      (d.performance config schedule f).toldBefore (i + 1)) ∨
  ((∀ i < d.operations.length, (d.performance config schedule f).faultAt i = none) ∧
    config.isAnimation = true ∧ Text.isWritable f = false ∧ e = .conversion .tooManyDigits ∧
    log = d.logBefore config schedule f ++ (d.performance config schedule f).told) ∨
  ((∀ i < d.operations.length, (d.performance config schedule f).faultAt i = none) ∧
    (config.isAnimation = true → Text.isWritable f = true) ∧
    (d.keepingAt config schedule f).fault? = some e ∧
    log = d.logBefore config schedule f ++ d.savedLog config schedule f)

/-- What a frame leaves that stops is part of what all frames would leave. -/
theorem StopsWith.isPrefix {e : Fault} (h : d.StopsWith config schedule f e log) {n : Nat}
    (hf : f < n) : log <+: d.logBefore config schedule n := by
  have hframe : d.logBefore config schedule f ++ d.frameLog config schedule f <+:
      d.logBefore config schedule n := by
    rw [← logBefore_succ]
    exact flatMap_range_prefix _ hf
  refine List.IsPrefix.trans ?_ hframe
  rcases h with ⟨i, hi, -, -, rfl⟩ | ⟨-, -, -, -, rfl⟩ | ⟨-, -, -, rfl⟩
  · have htold : (d.performance config schedule f).toldBefore (i + 1) <+:
        (d.performance config schedule f).told := by
      rw [told, performance_operations]
      exact flatMap_range_prefix _ hi
    rw [List.prefix_append_right_inj, frameLog, savedLog, List.append_assoc]
    exact htold.trans (List.prefix_append ..)
  · rw [List.prefix_append_right_inj, frameLog, savedLog, List.append_assoc]
    exact List.prefix_append ..
  · rw [List.prefix_append_right_inj, frameLog]
    exact List.prefix_append ..

theorem Ready.finished (h : d.Ready config schedule before config.frameCount.toNat d') :
    (d'.finish config).fault? = (d.assembling config schedule).fault? ∧
      d.After config schedule before
        (d.logBefore config schedule config.frameCount.toNat ++ d.finale config schedule)
        (d'.finish config).state := by
  unfold finish finale
  cases hanimation : config.isAnimation with
  | false =>
    simp only [assembling, hanimation, Bool.false_eq_true, ↓reduceIte, List.append_nil]
    exact ⟨rfl, h.toAfter⟩
  | true =>
    have hpaths : d'.framePaths config = d.framePaths config := by
      simp only [framePaths, h.framePath_eq]
    have htold := h.toAfter.tell .assembling
    -- telling of it does not change the world in which the frames are put together
    have hworld : (d'.tell .assembling).world =
        (d.performance config schedule config.frameCount.toNat).world := by
      rw [Director.tell, world_record, h.world, worldAfter_logBefore]
    have hhanded := htold.handOver (.assemble config.basename (d.framePaths config))
    have hreport : d.interpreter.handOver (.assemble config.basename (d.framePaths config))
        (d'.tell .assembling).world = d.assembling config schedule := by
      rw [hworld, assembling, if_pos hanimation, Interpreter.handOver]
    have hassemble : d'.assemble config =
        ((d'.tell .assembling).record (.assemble config.basename (d.framePaths config))).receive
          (d.assembling config schedule) := by
      rw [assemble, hpaths, interpreter_record, world_record, htold.interpreter_eq, ← hreport]
      rfl
    rw [hreport, List.append_assoc] at hhanded
    simp only [↓reduceIte, hassemble]
    exact ⟨rfl, hhanded⟩

variable [Sub α] [OfInteger α]

theorem Ready.produced (h : d.Ready config schedule before f d') (hf : f < schedule.frames.size)
    (hok : d.Passes config schedule f) :
    (produceFrame config f d').fault? = none ∧
      d.Ready config schedule before (f + 1) (produceFrame config f d').state := by
  obtain ⟨hfault, hdrawn⟩ := h.drawn hf hok.1
  rw [produceFrame_eq h.schedule_eq, Outcome.andThen_of_none hfault]
  exact hdrawn.kept hok.2.1 hok.2.2

theorem Ready.produceFrame_refused (h : d.Ready config schedule before f d')
    (hf : f < schedule.frames.size) {i : Nat}
    (hok : ∀ j < i, (d.performance config schedule f).faultAt j = none) {e : Fault}
    (he : (d.performance config schedule f).faultAt i = some e) :
    (produceFrame config f d').fault? = some e ∧
      d.After config schedule before
        (d.logBefore config schedule f ++ (d.performance config schedule f).toldBefore (i + 1))
        (produceFrame config f d').state := by
  have hrefused := h.refused hf hok he
  rw [produceFrame_eq h.schedule_eq, Outcome.andThen_of_some hrefused.1]
  exact hrefused

theorem Ready.produceFrame_unnamed (h : d.Ready config schedule before f d')
    (hf : f < schedule.frames.size)
    (hok : ∀ i < d.operations.length, (d.performance config schedule f).faultAt i = none)
    (hanimation : config.isAnimation = true) (hindex : Text.isWritable f = false) :
    (produceFrame config f d').fault? = some (.conversion .tooManyDigits) ∧
      d.After config schedule before
        (d.logBefore config schedule f ++ (d.performance config schedule f).told)
        (produceFrame config f d').state := by
  obtain ⟨hfault, hdrawn⟩ := h.drawn hf hok
  rw [produceFrame_eq h.schedule_eq, Outcome.andThen_of_none hfault]
  exact hdrawn.unnamed hanimation hindex

theorem Ready.produceFrame_stopped (h : d.Ready config schedule before f d')
    (hf : f < schedule.frames.size)
    (hok : ∀ i < d.operations.length, (d.performance config schedule f).faultAt i = none)
    (hindex : config.isAnimation = true → Text.isWritable f = true) {e : Fault}
    (he : (d.keepingAt config schedule f).fault? = some e) :
    (produceFrame config f d').fault? = some e ∧
      d.After config schedule before
        (d.logBefore config schedule f ++ d.savedLog config schedule f)
        (produceFrame config f d').state := by
  obtain ⟨hfault, hdrawn⟩ := h.drawn hf hok
  rw [produceFrame_eq h.schedule_eq, Outcome.andThen_of_none hfault]
  exact hdrawn.stopped hindex he

/-! ### Producing all frames -/

variable {d₀ : Director α σ} {n : Nat}

/-- **After frames that pass the director is ready for the next one.** -/
theorem Ready.sequence (h₀ : d.Ready config schedule before 0 d₀)
    (hf : f ≤ schedule.frames.size) (hok : ∀ g < f, d.Passes config schedule g) :
    (Outcome.sequence (produceFrame config) (List.range f) d₀).fault? = none ∧
      d.Ready config schedule before f
        (Outcome.sequence (produceFrame config) (List.range f) d₀).state := by
  induction f with
  | zero => exact ⟨rfl, h₀⟩
  | succ f ih =>
    obtain ⟨hfault, hready⟩ := ih (by omega) fun g hg => hok g (by omega)
    rw [List.range_succ, Outcome.sequence_append, Outcome.andThen_of_none hfault,
      Outcome.sequence_singleton]
    exact hready.produced hf (hok f (by omega))

theorem sequence_of_frame {e : Fault} (hf : f < n)
    (hfault : (Outcome.sequence (produceFrame config) (List.range f) d₀).fault? = none)
    (he : (produceFrame config f
      (Outcome.sequence (produceFrame config) (List.range f) d₀).state).fault? = some e) :
    Outcome.sequence (produceFrame config) (List.range n) d₀ =
      produceFrame config f (Outcome.sequence (produceFrame config) (List.range f) d₀).state := by
  have htake : (List.range n).take f = List.range f := by
    rw [List.take_range, Nat.min_eq_left hf.le]
  rw [← htake] at hfault he ⊢
  exact Outcome.sequence_of_stop (List.getElem?_range hf) hfault he

/-- All frames pass, or there is a first one that stops. -/
theorem Ready.frames (h₀ : d.Ready config schedule before 0 d₀)
    (hn : schedule.frames.size = n) :
    let o := Outcome.sequence (produceFrame config) (List.range n) d₀
    (o.fault? = none ∧ (∀ f < n, d.Passes config schedule f) ∧
      d.Ready config schedule before n o.state) ∨
    ∃ f < n, ∃ e log, (∀ g < f, d.Passes config schedule g) ∧
      d.StopsWith config schedule f e log ∧ o.fault? = some e ∧
      d.After config schedule before log o.state := by
  intro o
  rcases Outcome.forall_or_first (d.Passes config schedule) n with hall | ⟨f, hf, hbefore, hnot⟩
  · obtain ⟨hfault, hready⟩ := h₀.sequence hn.ge hall
    exact .inl ⟨hfault, hall, hready⟩
  · obtain ⟨hfault, hready⟩ := h₀.sequence (by omega) hbefore
    refine .inr ⟨f, hf, ?_⟩
    rcases (d.performance config schedule f).faultAt_cases d.operations.length with
      hok | ⟨i, hi, e, hok, he⟩
    · -- no operation stops, so the frame has no name or the exporter stops
      by_cases hindex : config.isAnimation = true → Text.isWritable f = true
      · obtain ⟨e, he⟩ := Option.ne_none_iff_exists'.1 fun h => hnot ⟨hok, hindex, h⟩
        obtain ⟨hstop, hafter⟩ := hready.produceFrame_stopped (by omega) hok hindex he
        have ho : o = _ := sequence_of_frame hf hfault hstop
        rw [ho]
        exact ⟨e, _, hbefore, .inr (.inr ⟨hok, hindex, he, rfl⟩), hstop, hafter⟩
      · obtain ⟨hanimation, hlong⟩ := Classical.not_imp.1 hindex
        have hunnamed := Bool.eq_false_iff.2 hlong
        obtain ⟨hstop, hafter⟩ :=
          hready.produceFrame_unnamed (by omega) hok hanimation hunnamed
        have ho : o = _ := sequence_of_frame hf hfault hstop
        rw [ho]
        exact ⟨_, _, hbefore, .inr (.inl ⟨hok, hanimation, hunnamed, rfl, rfl⟩), hstop, hafter⟩
    · obtain ⟨hstop, hafter⟩ := hready.produceFrame_refused (by omega) hok he
      have ho : o = _ := sequence_of_frame hf hfault hstop
      rw [ho]
      exact ⟨e, _, hbefore, .inl ⟨i, hi, hok, he, rfl⟩, hstop, hafter⟩

/-! ### Whole runs -/

variable (d config schedule) in
/-- What preparing has changed. -/
def Prepared : Prop :=
  d.compile.state = { d with
    symbols := (d.symbols.declareKnobs d.operations).1
    config? := some config
    schedule? := some schedule
    events := d.compile.state.events }

/-- **Once the operations have compiled**, a run produces its frames and is finished. -/
theorem exists_prepared (hcompile : d.compile.fault? = none) :
    ∃ config schedule, 1 ≤ config.frameCount ∧
      KnobSchedule.ofOperations d.operations config.frameCount = .ok schedule ∧
      schedule.frames.size = config.frameCount.toNat ∧ d.Prepared config schedule ∧
      d.compile.state.config? = some config ∧
      d.run = (Outcome.sequence (produceFrame config) (List.range config.frameCount.toNat)
        d.compile.state).andThen (finish config) := by
  obtain ⟨config, notices, schedule, hconfigOf, hscheduleOf, hprepared, -⟩ :=
    compile_spec hcompile
  replace hprepared : d.Prepared config schedule := hprepared
  have hconfig : d.compile.state.config? = some config := by rw [hprepared]
  exact ⟨config, schedule, AnimationConfig.one_le_frameCount hconfigOf, hscheduleOf,
    (KnobSchedule.lists_ofOperations hscheduleOf).size, hprepared, hconfig,
    run_eq_produce hcompile hconfig⟩

omit [One α] [Neg α] [NatCast α] [Circular α] [Farthest α] in
theorem Prepared.after (h : d.Prepared config schedule)
    (hevents : d.compile.state.events.toList = before) :
    d.After config schedule before [] d.compile.state := by
  refine ⟨by rw [h]; rfl, ?_, by rw [h]; rfl⟩
  rw [hevents, List.filter_nil, List.append_nil]

theorem Prepared.ready (h : d.Prepared config schedule) (hnew : d.frame? = none)
    (hsize : 0 ≤ d.size) (hevents : d.compile.state.events.toList = before) :
    d.Ready config schedule before 0 d.compile.state := by
  refine ⟨h.after hevents, by rw [h]; rfl, .blank 0 d.size.toNat, ?_, rfl,
    Frame.idle_blank .., rfl, rfl⟩
  rw [h, prepareFrame, hnew, Frame.create]
  exact if_neg (Int.not_lt.2 hsize)

theorem Prepared.sequence (h : d.Prepared config schedule) (hnew : d.frame? = none)
    (hsize : d.size < 0) (hn : 0 < n) :
    Outcome.sequence (produceFrame config) (List.range n) d.compile.state =
      .failed d.compile.state (.conversion .malformed) := by
  have hschedule : d.compile.state.schedule? = some schedule := by rw [h]
  have henter : d.compile.state.enterFrame schedule 0 =
      .failed d.compile.state (.conversion .malformed) := by
    rw [enterFrame, h, prepareFrame, hnew, Frame.create, if_pos hsize]
  have hfirst : produceFrame config 0 d.compile.state =
      .failed d.compile.state (.conversion .malformed) := by
    rw [produceFrame_eq hschedule, henter]
    rfl
  exact (sequence_of_frame hn rfl (congrArg Outcome.fault? hfirst)).trans hfirst

/-- **A run does what its log says, up to its end or to the place at which it stops.** -/
theorem trace_of_run (d : Director α σ) (hnew : d.frame? = none)
    (hcompile : d.compile.fault? = none) :
    ∃ config notices schedule,
      AnimationConfig.ofOperations d.operations d.settings.defaultBasename =
        .ok (config, notices) ∧
      KnobSchedule.ofOperations d.operations config.frameCount = .ok schedule ∧
      let n := config.frameCount.toNat
      let p := d.performance config schedule
      let paths := if config.isAnimation then
        (List.range n).map fun (f : Nat) => (d.framePath config f).text else []
      let before := d.events.toList ++
        ((d.preparation notices).map Event.notice).filter d.interpreter.watches
      (config.isAnimation = true ↔ 1 < n) ∧
      (∀ f, (d.frameLog config schedule f).filter Event.isExport =
        (p f).exportsBefore d.operations.length ++ if config.isAnimation then
          [.save (p f).canvasAfter.picture (d.framePath config f).text] else []) ∧
      (d.finale config schedule).filter Event.isExport =
        (if config.isAnimation then [.assemble config.basename paths] else []) ∧
      (d.run.fault? = none →
        (∀ f < n, d.Passes config schedule f) ∧
        d.After config schedule before
          (d.logBefore config schedule n ++ d.finale config schedule) d.run.state ∧
        RenderSummary.ofDirector? d.run.state = some ⟨config, paths⟩) ∧
      ∀ e, d.run.fault? = some e →
        (d.size < 0 ∧ e = .conversion .malformed ∧
          d.After config schedule before [] d.run.state) ∨
        (∃ f < n, ∃ log, (∀ g < f, d.Passes config schedule g) ∧
          d.StopsWith config schedule f e log ∧ log <+: d.logBefore config schedule n ∧
          (∀ basename frames, .assemble basename frames ∉ log) ∧
          d.After config schedule before log d.run.state) ∨
        ((∀ f < n, d.Passes config schedule f) ∧
          (d.assembling config schedule).fault? = some e ∧
          d.After config schedule before
            (d.logBefore config schedule n ++ d.finale config schedule) d.run.state) := by
  obtain ⟨config, notices, schedule, hconfigOf, hscheduleOf, hprepared, hevents⟩ :=
    compile_spec hcompile
  replace hprepared : d.Prepared config schedule := hprepared
  refine ⟨config, notices, schedule, hconfigOf, hscheduleOf, ?_⟩
  intro n p paths before
  have hcount := AnimationConfig.one_le_frameCount hconfigOf
  have hn : schedule.frames.size = n := (KnobSchedule.lists_ofOperations hscheduleOf).size
  have hconfig : d.compile.state.config? = some config := by rw [hprepared]
  have hrun := run_eq_produce hcompile hconfig
  refine ⟨?_, d.filter_frameLog config schedule, ?_, ?_⟩
  · rw [AnimationConfig.isAnimation, decide_eq_true_iff]
    omega
  · rw [d.filter_finale config schedule]
    rfl
  rcases Int.lt_or_le d.size 0 with hsize | hsize
  · -- no frame can be made
    have hstop : d.run = .failed d.compile.state (.conversion .malformed) := by
      rw [hrun, hprepared.sequence hnew hsize (by omega)]
      rfl
    rw [hstop]
    refine ⟨fun h => (by cases h), fun e he => .inl ⟨hsize, ?_, hprepared.after hevents⟩⟩
    exact (Option.some.inj he).symm
  · rcases (hprepared.ready hnew hsize hevents).frames hn with
      ⟨hfault, hpass, hready⟩ | ⟨f, hf, e, log, hpass, hstops, hfault, hafter⟩
    · -- all frames are done; what is left is to put them together
      obtain ⟨hfinish, hafter⟩ := hready.finished
      rw [Outcome.andThen_of_none hfault] at hrun
      rw [hrun]
      refine ⟨fun _ => ⟨hpass, hafter, hafter.summary⟩,
        fun e he => .inr (.inr ⟨hpass, ?_, hafter⟩)⟩
      rw [← hfinish, he]
    · -- a frame stops, and with it the run
      rw [Outcome.andThen_of_some hfault] at hrun
      rw [hrun]
      refine ⟨fun h => ?_, fun e' he' =>
        .inr (.inl ⟨f, hf, log, hpass, ?_, hstops.isPrefix hf, fun basename frames hmem => ?_,
          hafter⟩)⟩
      · rw [hfault] at h
        cases h
      · obtain rfl := Option.some.inj (hfault.symm.trans he')
        exact hstops
      · exact d.assemble_notMem_logBefore config schedule n basename frames
          ((hstops.isPrefix hf).subset hmem)

/-- Two frames that are saved under their names and put together. -/
theorem trace_of_run_two_frames :
    let d : Director Float (List Value) := {
      operations := [.frames 2, .basename "spin", .vary ⟨"turn", 0, 1, 0, 180⟩,
        .rotate .y 1 (some "turn"), .box ⟨0, 0, 0⟩ ⟨1, 1, 1⟩ none none, .display]
      symbols := .empty
      interpreter := {
        rasterizer := .silent
        exporter := {
          save := fun _ filename names => { world := names ++ [filename] }
          display := fun _ names => { world := names }
          assemble := fun _ _ names => { world := names } }
        scene := .default
        steps := 3
        watches := fun _ => true }
      settings := .ofEnvironment fun _ => none
      outputDir := .ofString "out"
      ext := "ppm"
      size := 2
      world := [] }
    d.frame? = none ∧ d.compile.fault? = none ∧ d.run.fault? = none ∧
      RenderSummary.ofDirector? d.run.state =
        some ⟨⟨2, "spin", true⟩, ["out/spin000.ppm", "out/spin001.ppm"]⟩ := by
  intro d
  have hcompile : d.compile.fault? = none := Option.isNone_iff_eq_none.1 (by decide +kernel)
  have hok : d.run.fault? = none := Option.isNone_iff_eq_none.1 (by decide +kernel)
  obtain ⟨config, notices, schedule, hconfig, -, -, -, -, hdone, -⟩ := d.trace_of_run rfl hcompile
  obtain ⟨-, -, hsummary⟩ := hdone hok
  have hscript : AnimationConfig.ofOperations d.operations d.settings.defaultBasename =
      .ok (⟨2, "spin", true⟩, []) := by rfl
  obtain ⟨rfl, rfl⟩ := Prod.mk.inj (Except.ok.inj (hconfig.symm.trans hscript))
  have hpaths : d.framePaths ⟨2, "spin", true⟩ = ["out/spin000.ppm", "out/spin001.ppm"] := by
    decide +kernel
  exact ⟨rfl, hcompile, hok,
    hsummary.trans (congrArg (fun paths => some (RenderSummary.mk _ paths)) hpaths)⟩

end Director

end Flipbook
