import Flipbook.Proofs.FrameIsolation
import Flipbook.Proofs.LoadedScripts
import Flipbook.Proofs.Preparation

/-!
# Running a script again

The symbols outlive a run and nothing resets them, while the frame is made as good as new.  So a
second run finds every knob as the first has left it.  A knob that has varied by some frame has the
same value there in both runs (`KnobSchedule.Lists.knob?_same`); one that varies later only still
has the value that it had at the end of the first run, and not the one that it started with.  Hence
the second run repeats the first when every knob that a transformation reads varies in frame zero or
ends as it began, and it need not otherwise (`Director.second_run_moved`).  A run leaves the same
table behind that the run before it left, so from the second one on all runs are the same
(`Director.run_twice`).

That a further run succeeds at all is because it is refused for nothing that the knobs decide
(`Performance.refusalAt_congr`).
-/

namespace Flipbook

/-! ### Knobs -/

namespace KnobSchedule

variable {α : Type}

theorem varied_or_not (vs : List (Vary α)) (name : String) (f : Nat) :
    (∃ j < f, varyAt vs name j ≠ none) ∨ ∀ j < f, varyAt vs name j = none := by
  by_cases h : ∃ j < f, varyAt vs name j ≠ none
  · exact .inl h
  · exact .inr fun j hj => by_contra fun hne => h ⟨j, hj, hne⟩

variable [Add α] [Sub α] [Mul α] [Div α] [OfInteger α]
variable {n : Int} {vs : List (Vary α)} {s : KnobSchedule α} {f : Nat} {name : String}

/-- **A knob that has varied** does not depend on the table that the schedule is applied to. -/
theorem Lists.knob?_same (hs : Lists n vs s) (hf : f ≤ n) (t t' : SymbolTable α)
    (hvaried : ∃ j < f, varyAt vs name j ≠ none) :
    (s.tableAfter t f).knob? name = (s.tableAfter t' f).knob? name := by
  induction f with
  | zero =>
    obtain ⟨j, hj, -⟩ := hvaried
    omega
  | succ f ih =>
    have hstep := hs.knob?_succ (f := f) (by omega) t name
    have hstep' := hs.knob?_succ (f := f) (by omega) t' name
    cases hv : varyAt vs name f with
    | some v =>
      rw [hv] at hstep hstep'
      obtain ⟨x, hx, hknob⟩ := hstep
      obtain ⟨x', hx', hknob'⟩ := hstep'
      obtain rfl := Except.ok.inj (hx.symm.trans hx')
      rw [hknob, hknob']
    | none =>
      -- the knob has varied before this frame
      rw [hv] at hstep hstep'
      rw [hstep, hstep']
      obtain ⟨j, hj, hvary⟩ := hvaried
      have hne : j ≠ f := by
        rintro rfl
        exact hvary hv
      exact ih (by omega) ⟨j, by omega, hvary⟩

/-- **Applying a schedule to the table that it has left changes nothing.** -/
theorem Lists.knob?_again (hs : Lists n vs s) (hf : f ≤ n) (t : SymbolTable α) (name : String) :
    (s.tableAfter (s.tableAfter t f) f).knob? name = (s.tableAfter t f).knob? name := by
  rcases varied_or_not vs name f with hvaried | hnot
  · exact hs.knob?_same hf _ _ hvaried
  · exact hs.knob?_of_uncovered hf _ hnot

/-- **Two tables agree in a frame** on all that operations read, when every knob that is read varies
in frame zero or is the same in both. -/
theorem Lists.agree {ops : List (Operation α)} (hs : Lists n vs s) (hf : f < n)
    {t t' : SymbolTable α} (hconstants : t.constants = t'.constants)
    (hsame : ∀ op ∈ ops, ∀ name, op.factor? = some name →
      varyAt vs name 0 ≠ none ∨ t.knob? name = t'.knob? name) :
    (s.tableAfter t (f + 1)).AgreeOn ops (s.tableAfter t' (f + 1)) where
  knob op hop name hname := by
    rcases varied_or_not vs name (f + 1) with hvaried | hnot
    · exact hs.knob?_same (by omega) _ _ hvaried
    · rw [hs.knob?_of_uncovered (by omega) _ hnot, hs.knob?_of_uncovered (by omega) _ hnot]
      exact (hsame op hop name hname).resolve_left fun h => h (hnot 0 (by omega))
  constants op hop name hname := by
    simp only [SymbolTable.constants?, constants_tableAfter, hconstants]

end KnobSchedule

/-! ### Refusals -/

namespace Performance

variable {α σ : Type} [Zero α] [One α] [Add α] [Mul α] [Neg α] [Div α] [NatCast α] [Circular α]
variable {p q : Performance α σ}

theorem drawing?_error_congr (hinterpreter : q.interpreter = p.interpreter)
    (hconstants : q.symbols.constants = p.symbols.constants) (top top' : Matrix4 α)
    (op : Operation α) (f : Fault) :
    q.drawing? top op = some (.error f) ↔ p.drawing? top' op = some (.error f) := by
  have hmaterial (name : Option String) : q.interpreter.material q.symbols name =
      p.interpreter.material p.symbols name := by
    cases name with
    | none => simp only [Interpreter.material, hinterpreter]
    | some name => simp only [Interpreter.material, SymbolTable.constants?, hconstants]
  cases op with
  | box _ _ name =>
    simp only [drawing?, hmaterial]
    cases p.interpreter.material p.symbols name <;> simp [bind, Except.bind, pure, Except.pure]
  | sphere _ _ name | torus _ _ _ name =>
    -- the material first: it is of the interpreter that the next step replaces
    simp only [drawing?, hmaterial]
    simp only [hinterpreter]
    cases p.interpreter.material p.symbols name with
    | error => simp [bind, Except.bind]
    | ok c =>
      cases Fault.ofGeometry (Mesh.checkedSteps p.interpreter.steps) <;>
        simp [bind, Except.bind, pure, Except.pure]
  | line => simp [drawing?]
  | _ => simp [drawing?]

/-- **The knobs do not decide what is refused**, as long as they are there. -/
theorem refusalAt_congr (hinterpreter : q.interpreter = p.interpreter)
    (hoperations : q.operations = p.operations)
    (hconstants : q.symbols.constants = p.symbols.constants)
    (hknobs : q.symbols.HasKnobs q.operations) {k : Nat}
    (hnone : p.refusalAt k = none) : q.refusalAt k = none := by
  unfold refusalAt at hnone ⊢
  rw [hoperations]
  cases hop : p.operations[k]? with
  | none => rfl
  | some op =>
    rw [hop] at hnone
    have hmem : op ∈ p.operations := List.mem_of_getElem? hop
    have hmatrix (f : Fault) := matrix?_ne_error hknobs (hoperations ▸ hmem) f
    have hdrawing (f : Fault) := drawing?_error_congr hinterpreter hconstants
      (q.topBefore k) (p.topBefore k) op f
    cases op with
    | pop => exact hnone
    | _ =>
      dsimp only at hnone ⊢
      split
      · rename_i hfound
        exact absurd hfound (hmatrix _)
      · rename_i f hfound hrest
        rw [hdrawing f] at hfound
        rw [hfound] at hnone
        split at hnone
        · cases hnone
        · cases hnone
        · rename_i hother
          exact absurd rfl (hother f)
      · rfl

end Performance

/-! ### Runs of like directors -/

namespace Director

open Interpreter Performance KnobSchedule

variable {α σ : Type} {new d d' : Director α σ} {config : AnimationConfig}
variable {schedule : KnobSchedule α}

/-- Both directors have the same operations and the same of all that stays the same in a run. -/
structure Alike (d d' : Director α σ) : Prop where
  operations : d'.operations = d.operations
  interpreter : d'.interpreter = d.interpreter
  settings : d'.settings = d.settings
  outputDir : d'.outputDir = d.outputDir
  ext : d'.ext = d.ext
  size : d'.size = d.size

theorem Alike.framePath_eq (h : Alike d d') (config : AnimationConfig) (i : Int) :
    d'.framePath config i = d.framePath config i := by
  simp only [framePath, h.settings, h.outputDir, h.ext]

theorem declareKnobs_of_run [Zero α] (hoperations : d'.operations = d.operations)
    (hsymbols : d'.symbols =
      schedule.tableAfter (d.symbols.declareKnobs d.operations).1 config.frameCount.toNat) :
    (d'.symbols.declareKnobs d'.operations).1 = d'.symbols := by
  have hdeclares : d'.symbols.Declares d'.operations := by
    rw [hsymbols, hoperations]
    exact SymbolTable.declares_declareKnobs.mono fun name hname =>
      schedule.isSome_knob?_tableAfter hname _
  rw [hdeclares.declareKnobs]

variable [Zero α] [One α] [Add α] [Mul α] [Div α] [Neg α] [NatCast α] [Circular α] [Farthest α]

section Calls

variable (d config schedule)

/-- What a run asks of those that draw and export. -/
def runCalls : List (Event α) :=
  (List.range config.frameCount.toNat).flatMap (fun f =>
    (d.performance config schedule f).callsBefore d.operations.length ++
      d.keptCalls config schedule f) ++
    if config.isAnimation then [.assemble config.basename (d.framePaths config)] else []

theorem filter_log : (d.logBefore config schedule config.frameCount.toNat ++
    d.finale config schedule).filter (fun e => !e.isMessage) = d.runCalls config schedule := by
  have hframe (f : Nat) : (d.frameLog config schedule f).filter (fun e => !e.isMessage) =
      (d.performance config schedule f).callsBefore d.operations.length ++
        d.keptCalls config schedule f := by
    have hkept : (d.keptCalls config schedule f).filter (fun e => !e.isMessage) =
        d.keptCalls config schedule f := by
      unfold keptCalls
      split <;> rfl
    simp only [frameLog, savedLog, told, List.filter_append, filter_toldBefore,
      filter_message_notices, hkept, List.append_nil, performance_operations]
  have hfinale : (d.finale config schedule).filter (fun e => !e.isMessage) =
      if config.isAnimation then [.assemble config.basename (d.framePaths config)] else [] := by
    unfold finale
    split
    · rw [List.filter_cons_of_neg (by simp [Event.isMessage]),
        List.filter_cons_of_pos (by simp [Event.isMessage]), filter_message_notices]
    · rfl
  rw [List.filter_append, hfinale, logBefore, List.filter_flatMap]
  simp only [hframe, runCalls]

end Calls

/-- A frame of the other director carries out the same operations with its own symbols. -/
theorem Alike.performance_eq (h : Alike d d') (hmeasures : d.interpreter.rasterizer.KeepsMeasures)
    (f : Nat) : d'.performance config schedule f = (d.performance config schedule f).again
      (d'.tableAt schedule f) f (d'.performance config schedule f).world := by
  have hcanvas := performance_canvas hmeasures config schedule f
  have hcanvas' := performance_canvas (h.interpreter.symm ▸ hmeasures) config schedule f
  have hinterpreter := d.performance_interpreter config schedule f
  have hoperations := d.performance_operations config schedule f
  have hinterpreter' := d'.performance_interpreter config schedule f
  have hoperations' := d'.performance_operations config schedule f
  have hsymbols' := d'.performance_symbols config schedule f
  have hindex' := d'.performance_index config schedule f
  generalize d'.performance config schedule f = p' at *
  obtain ⟨_, _, _, _, _, _⟩ := p'
  simp only [again] at *
  rw [hcanvas, hinterpreter, hoperations, hcanvas', hinterpreter', hoperations', hsymbols',
    hindex', h.interpreter, h.operations, h.size]

/-- **Runs whose tables agree in all frames make the same calls.** -/
theorem Alike.runCalls_eq (h : Alike d d') (hmeasures : d.interpreter.rasterizer.KeepsMeasures)
    (hagree : ∀ f < config.frameCount.toNat,
      (d.tableAt schedule f).AgreeOn d.operations (d'.tableAt schedule f)) :
    d'.runCalls config schedule = d.runCalls config schedule := by
  have hpaths : d'.framePaths config = d.framePaths config := by
    simp only [framePaths, h.framePath_eq]
  unfold runCalls
  rw [hpaths]
  congr 1
  refine List.flatMap_congr fun f hf => ?_
  have hagree : (d.performance config schedule f).symbols.AgreeOn
      (d.performance config schedule f).operations (d'.tableAt schedule f) := by
    rw [performance_symbols, performance_operations]
    exact hagree f (List.mem_range.1 hf)
  rw [keptCalls, keptCalls, h.framePath_eq, h.performance_eq hmeasures f, callsBefore_again hagree,
    canvasAfter, canvasBefore_again hagree, operations_again, h.operations]
  rfl

theorem Alike.passes (h : Alike d d') (hraster : d.interpreter.rasterizer.Reliable)
    (hexporter : d.interpreter.exporter.Reliable)
    (hconstants : d'.symbols.constants = d.symbols.constants) {f : Nat}
    (hpass : d.Passes config schedule f) : d'.Passes config schedule f := by
  have hknobs : (d'.performance config schedule f).symbols.HasKnobs
      (d'.performance config schedule f).operations := by
    rw [performance_symbols, performance_operations]
    exact fun op hop name hname =>
      d'.isSome_knob?_tableAt schedule f hop (op.knob?_of_factor? hname)
  refine ⟨fun k hk => ?_, hpass.2.1, ?_⟩
  · have hnone := hpass.1 k (h.operations ▸ hk)
    rw [faultAt_of_reliable (by rwa [performance_interpreter])
      (by rwa [performance_interpreter])] at hnone
    rw [faultAt_of_reliable (by rwa [performance_interpreter, h.interpreter])
      (by rwa [performance_interpreter, h.interpreter])]
    refine refusalAt_congr ?_ ?_ ?_ hknobs hnone
    · rw [performance_interpreter, performance_interpreter, h.interpreter]
    · rw [performance_operations, performance_operations, h.operations]
    · simp only [performance_symbols, tableAt, constants_declared, hconstants]
  · rw [keepingAt, keeping]
    split
    · rw [h.interpreter, hexporter.save]
    · rfl

/-! ### Runs that come to their end -/

variable [Sub α] [OfInteger α]

omit [One α] [Neg α] [NatCast α] [Circular α] [Farthest α] in
theorem After.calls {log : List (Event α)}
    (h : d.After config schedule d.compile.state.events.toList log d') :
    d'.calls = d.calls ++
      (log.filter fun e => !e.isMessage).filter d.interpreter.watches := by
  have hcompile : d.compile.state.events.toList.filter (fun e => !e.isMessage) = d.calls :=
    calls_compile d
  have hcalls : d'.calls = d'.events.toList.filter fun e => !e.isMessage := rfl
  rw [hcalls, h.events, List.filter_append, hcompile, List.filter_filter, List.filter_filter]
  simp only [Bool.and_comm]

/-- The script of the director has a schedule, and no frame of it stops. -/
structure Plays (d : Director α σ) (config : AnimationConfig) (schedule : KnobSchedule α) :
    Prop where
  configOf : ∃ notices, AnimationConfig.ofOperations d.operations d.settings.defaultBasename =
    .ok (config, notices)
  scheduleOf : KnobSchedule.ofOperations d.operations config.frameCount = .ok schedule
  passes : ∀ f < config.frameCount.toNat, d.Passes config schedule f

theorem Plays.prepared (h : d.Plays config schedule) :
    d.compile.fault? = none ∧ d.Prepared config schedule := by
  obtain ⟨notices, hconfig⟩ := h.configOf
  exact prepared_of_schedule hconfig h.scheduleOf

theorem Plays.lists (h : d.Plays config schedule) :
    Lists config.frameCount (varies d.operations) schedule := lists_ofOperations h.scheduleOf

theorem Plays.config_eq (h : d.Plays config schedule) :
    d.compile.state.config? = some config := by
  rw [h.prepared.2]

theorem Plays.schedule_eq (h : d.Plays config schedule) :
    d.compile.state.schedule? = some schedule := by
  rw [h.prepared.2]

theorem Plays.symbols_entering (h : d.Plays config schedule) (hok : d.run.fault? = none) {f : Nat}
    (hf : f < config.frameCount) : (d.entering f).state.symbols = d.tableAt schedule f := by
  obtain ⟨hcompile, hprepared⟩ := h.prepared
  have hsplit := run_eq_entering hcompile h.config_eq h.schedule_eq hf
  have hentered := (Outcome.andThen_fault_none (Outcome.andThen_fault_none (hsplit ▸ hok)).1).1
  rw [Director.symbols_entering hcompile h.config_eq h.schedule_eq hentered, hprepared]
  rfl

theorem Restorable.ready (h : Restorable new d) (hsize : 0 ≤ new.size)
    (hprepared : d.Prepared config schedule) :
    d.Ready config schedule d.compile.state.events.toList 0 d.compile.state := by
  rcases h.compile.prepareFrame 0 with ⟨hneg, -⟩ | ⟨-, frame, hframe, hfresh⟩
  · omega
  · refine ⟨hprepared.after rfl, by rw [hprepared]; rfl, frame, hframe, hfresh.index, hfresh.idle,
      ?_, hfresh.stack⟩
    rw [hfresh.canvas, ← h.size]
    rfl

/-- A director whose frames all pass comes to the end of its run, makes its calls and leaves the
table of its schedule. -/
theorem Restorable.finished (h : Restorable new d) (hsize : 0 ≤ new.size)
    (hplays : d.Plays config schedule) :
    d.run.fault? = (d.assembling config schedule).fault? ∧
      d.After config schedule d.compile.state.events.toList
        (d.logBefore config schedule config.frameCount.toNat ++ d.finale config schedule)
        d.run.state ∧
      d.run.state.symbols =
        schedule.tableAfter (d.symbols.declareKnobs d.operations).1 config.frameCount.toNat := by
  obtain ⟨hcompile, hprepared⟩ := hplays.prepared
  obtain ⟨hfault, hready⟩ :=
    (h.ready hsize hprepared).sequence hplays.lists.size.ge hplays.passes
  obtain ⟨hfinish, hafter⟩ := hready.finished
  rw [run_eq_produce hcompile hplays.config_eq, Outcome.andThen_of_none hfault]
  exact ⟨hfinish, hafter, (finish_state ..).2.trans hready.symbols⟩

/-- **A run that comes to its end** has passed all its frames. -/
theorem Restorable.plays_of_run (h : Restorable new d) (hok : d.run.fault? = none) :
    0 ≤ new.size ∧ ∃ config schedule, d.Plays config schedule := by
  have hcompile : d.compile.fault? = none := (Outcome.andThen_fault_none hok).1
  obtain ⟨config, notices, schedule, hconfigOf, hscheduleOf, -⟩ := compile_spec hcompile
  obtain ⟨-, hprepared⟩ := prepared_of_schedule hconfigOf hscheduleOf
  have hconfig : d.compile.state.config? = some config := by rw [hprepared]
  have hschedule : d.compile.state.schedule? = some schedule := by rw [hprepared]
  have hcount := AnimationConfig.one_le_frameCount hconfigOf
  have hsize : 0 ≤ new.size := by
    -- without a frame the first one is not even entered
    rcases h.compile.prepareFrame 0 with ⟨-, -, hprepare⟩ | ⟨hsize, -⟩
    · rw [run_eq_entering (f := 0) hcompile hconfig hschedule (by omega)] at hok
      have hentered := (Outcome.andThen_fault_none (Outcome.andThen_fault_none hok).1).1
      rw [entering_eq hcompile hconfig hschedule] at hentered
      have hfirst : (d.compile.state.enterFrame schedule 0).fault? = none := hentered
      rw [enterFrame] at hfirst
      simp only [Nat.cast_zero, hprepare] at hfirst
      cases hfirst
    · exact hsize
  refine ⟨hsize, config, schedule, ⟨notices, hconfigOf⟩, hscheduleOf, ?_⟩
  rcases (h.ready hsize hprepared).frames (lists_ofOperations hscheduleOf).size with
    ⟨-, hpass, -⟩ | ⟨f, -, e, log, -, -, hf, -⟩
  · exact hpass
  · rw [run_eq_produce hcompile hconfig, Outcome.andThen_of_some hf, hf] at hok
    cases hok

/-! ### Two runs -/

/-- **The script is played again after a run**, and the run has left the table of its schedule. -/
theorem Plays.again (hplays : d.Plays config schedule)
    (hraster : d.interpreter.rasterizer.Reliable) (hexporter : d.interpreter.exporter.Reliable)
    {log : List (Event α)}
    (hafter : d.After config schedule d.compile.state.events.toList log d')
    (hsymbols : d'.symbols =
      schedule.tableAfter (d.symbols.declareKnobs d.operations).1 config.frameCount.toNat) :
    Alike d d' ∧ d'.Plays config schedule := by
  have hfixed := hafter.fixed
  simp only [fixed, Prod.mk.injEq] at hfixed
  obtain ⟨hoperations, hinterpreter, hsettings, houtput, hext, hsize, -, -⟩ := hfixed
  have hconstants : d'.symbols.constants = d.symbols.constants := by
    rw [hsymbols, constants_declared]
  have halike : Alike d d' := ⟨hoperations, hinterpreter, hsettings, houtput, hext, hsize⟩
  refine ⟨halike, ?_, ?_, fun f hf => ?_⟩
  · rw [hoperations, hsettings]
    exact hplays.configOf
  · rw [hoperations]
    exact hplays.scheduleOf
  · exact halike.passes hraster hexporter hconstants (hplays.passes f hf)

/-- **What a run leaves** when nobody stops it: the script can be played again, and only the knobs
may have changed. -/
theorem Restorable.played (h : Restorable new d) (hsize : 0 ≤ new.size)
    (hplays : d.Plays config schedule) (hraster : new.interpreter.rasterizer.Reliable)
    (hexporter : new.interpreter.exporter.Reliable)
    (hassemble : ∀ basename frames w,
      (new.interpreter.exporter.assemble basename frames w).fault? = none) :
    d.run.fault? = none ∧ Alike d d.run.state ∧ d.run.state.Plays config schedule ∧
      d.run.state.calls =
        d.calls ++ (d.runCalls config schedule).filter new.interpreter.watches ∧
      d.run.state.symbols =
        schedule.tableAfter (d.symbols.declareKnobs d.operations).1 config.frameCount.toNat ∧
      d.run.state.config? = some config := by
  obtain ⟨hfault, hafter, hsymbols⟩ := h.finished hsize hplays
  obtain ⟨halike, hagain⟩ :=
    hplays.again (h.interpreter ▸ hraster) (h.interpreter ▸ hexporter) hafter hsymbols
  refine ⟨?_, halike, hagain, ?_, hsymbols, congrArg (·.2.2.2.2.2.2.1) hafter.fixed⟩
  · rw [hfault, assembling]
    split
    · rw [h.interpreter]
      exact hassemble ..
    · rfl
  · rw [hafter.calls, filter_log, h.interpreter]

/-- **Running once more.**  When nobody stops the runs, a second run succeeds like the first and
makes the same calls if every knob that a transformation reads varies in frame zero or is left as it
began.  In the second run a knob that has not varied yet has the value that the first run has
left it with.  From the second run on all runs make the same calls. -/
theorem run_twice (new d : Director α σ) (hnew : new.Unused) (hpast : Past new d)
    (hraster : new.interpreter.rasterizer.Reliable)
    (hmeasures : new.interpreter.rasterizer.KeepsMeasures)
    (hexporter : new.interpreter.exporter.Reliable)
    (hassemble : ∀ basename frames w,
      (new.interpreter.exporter.assemble basename frames w).fault? = none)
    (hok : d.run.fault? = none) :
    let d₁ := d.run.state
    let d₂ := d₁.run.state
    let vs := varies new.operations
    d₁.run.fault? = none ∧ d₂.run.fault? = none ∧
    (∃ config, d₁.config? = some config ∧ ∀ f : Nat, f < config.frameCount → ∀ name,
      let first := (d.entering f).state.symbols.knob? name
      let second := (d₁.entering f).state.symbols.knob? name
      ((∃ j : Nat, j ≤ f ∧ varyAt vs name j ≠ none) → second = first) ∧
      ((∀ j : Nat, j ≤ f → varyAt vs name j = none) →
        second = d₁.symbols.knob? name ∧
        first = (d.symbols.knob? name).or
          (if ∃ op ∈ new.operations, op.knob? = some name then some 0 else none))) ∧
    ((∀ op ∈ new.operations, ∀ name, op.factor? = some name →
        varyAt vs name 0 ≠ none ∨
          d₁.symbols.knob? name = (d.symbols.knob? name).or (some 0)) →
      ∃ calls, d₁.calls = d.calls ++ calls ∧ d₂.calls = d₁.calls ++ calls) ∧
    ∃ calls, d₂.calls = d₁.calls ++ calls ∧ d₂.run.state.calls = d₂.calls ++ calls := by
  intro d₁ d₂ vs
  have hrestore := hpast.restorable hnew hmeasures
  have hrestore₁ : Restorable new d₁ := hpast.ran.restorable hnew hmeasures
  have hrestore₂ : Restorable new d₂ := hpast.ran.ran.restorable hnew hmeasures
  obtain ⟨hsize, config, schedule, hplays⟩ := hrestore.plays_of_run hok
  obtain ⟨-, halike, hplays₁, hcalls, hsymbols, hconfig⟩ :=
    hrestore.played hsize hplays hraster hexporter hassemble
  obtain ⟨hok₁, halike₁, hplays₂, hcalls₁, hsymbols₁, -⟩ :=
    hrestore₁.played hsize hplays₁ hraster hexporter hassemble
  obtain ⟨hok₂, -, -, hcalls₂, -, -⟩ :=
    hrestore₂.played hsize hplays₂ hraster hexporter hassemble
  have hlists : Lists config.frameCount vs schedule := by
    have := hplays.lists
    rwa [hrestore.operations] at this
  -- the table of a frame comes from the one that its run starts with
  let t := (d.symbols.declareKnobs d.operations).1
  have hdeclared₁ := declareKnobs_of_run halike.operations hsymbols
  have hdeclared₂ := declareKnobs_of_run halike₁.operations hsymbols₁
  have hfirst (f : Nat) : d.tableAt schedule f = schedule.tableAfter t (f + 1) := rfl
  have hsecond (f : Nat) : d₁.tableAt schedule f = schedule.tableAfter d₁.symbols (f + 1) := by
    rw [tableAt, hdeclared₁]
  have hthird (f : Nat) : d₂.tableAt schedule f = schedule.tableAfter d₂.symbols (f + 1) := by
    rw [tableAt, hdeclared₂]
  refine ⟨hok₁, hok₂, ⟨config, hconfig, ?_⟩, fun hsame => ⟨_, hcalls, ?_⟩, ⟨_, hcalls₁, ?_⟩⟩
  · intro f hf name
    rw [hplays.symbols_entering hok hf, hplays₁.symbols_entering hok₁ hf, hfirst, hsecond]
    refine ⟨?_, fun hnot => ⟨?_, ?_⟩⟩
    · rintro ⟨j, hj, hvaried⟩
      exact hlists.knob?_same (by omega) _ _ ⟨j, by omega, hvaried⟩
    · exact hlists.knob?_of_uncovered (by omega) _ fun j hj => hnot j (by omega)
    · rw [hlists.knob?_of_uncovered (by omega) _ fun j hj => hnot j (by omega),
        SymbolTable.knob?_declareKnobs, hrestore.operations]
  · rw [hcalls₁, halike.runCalls_eq (hrestore.interpreter ▸ hmeasures) fun f hf => ?_]
    rw [hfirst, hsecond]
    refine hlists.agree (by omega) ?_ fun op hop name hname => ?_
    · rw [hsymbols, constants_tableAfter]
    · have hop' : op ∈ new.operations := hrestore.operations ▸ hop
      have hstart := knob?_of_declared d.symbols hop (op.knob?_of_factor? hname)
      rw [hstart]
      exact (hsame op hop' name hname).imp_right Eq.symm
  · rw [hcalls₂, halike₁.runCalls_eq (hrestore₁.interpreter ▸ hmeasures) fun f hf => ?_]
    rw [hsecond, hthird]
    refine hlists.agree (by omega) ?_ fun op hop name hname => .inr ?_
    · rw [hsymbols₁, hdeclared₁, constants_tableAfter]
    · -- the first run has left what its schedule makes of any table
      rw [hsymbols₁, hdeclared₁, hsymbols]
      exact (hlists.knob?_again (by omega) t name).symm

/-- A line that is moved from the first frame on. -/
theorem run_twice_moved_from_start :
    let d : Director Float Unit := {
      operations := [.frames 2, .vary ⟨"lift", 0, 0, 5, 5⟩, .move ⟨1, 0, 0⟩ (some "lift"),
        .line ⟨0, 0, 0⟩ ⟨0, 1, 0⟩ none none none]
      symbols := .empty
      interpreter := ⟨.silent, .silent, .default, 3, fun _ => true⟩
      settings := .ofEnvironment fun _ => none
      outputDir := .ofString "out"
      ext := "ppm"
      size := 2
      world := () }
    d.Unused ∧ d.run.fault? = none ∧
      ∃ calls, d.run.state.calls = calls ∧ d.run.state.run.state.calls = calls ++ calls := by
  intro d
  have hok : d.run.fault? = none := Option.isNone_iff_eq_none.1 (by decide +kernel)
  obtain ⟨-, -, -, hsame, -⟩ := run_twice d d ⟨rfl, rfl⟩ .new Rasterizer.reliable_silent
    Rasterizer.keepsMeasures_silent Exporter.reliable_silent (fun _ _ _ => rfl) hok
  have hreads (op : Operation Float) (hop : op ∈ d.operations) (name : String)
      (hname : op.factor? = some name) :
      KnobSchedule.varyAt (KnobSchedule.varies d.operations) name 0 ≠ none := by
    -- the one transformation reads the knob that varies
    simp only [d, List.mem_cons, List.not_mem_nil, or_false] at hop
    rcases hop with rfl | rfl | rfl | rfl <;> cases hname
    decide
  obtain ⟨calls, hcalls, hcalls₁⟩ := hsame fun op hop name hname => .inl (hreads op hop name hname)
  refine ⟨⟨rfl, rfl⟩, hok, calls, hcalls, ?_⟩
  rw [hcalls₁, hcalls]
  rfl

/-- The first coordinate of the point that a line starts from. -/
def lineStart? : Event Float → Option Float
  | .line points => points[0]?.map (·.x)
  | _ => none

/-- A line that is moved from the second frame on.  After a first run it is moved in the first frame
too. -/
theorem second_run_moved :
    let d : Director Float Unit := {
      operations := [.frames 2, .vary ⟨"lift", 1, 1, 5, 5⟩, .move ⟨1, 0, 0⟩ (some "lift"),
        .line ⟨0, 0, 0⟩ ⟨0, 1, 0⟩ none none none]
      symbols := .empty
      interpreter := ⟨.silent, .silent, .default, 3, fun _ => true⟩
      settings := .ofEnvironment fun _ => none
      outputDir := .ofString "out"
      ext := "ppm"
      size := 2
      world := () }
    let d₁ := d.run.state
    d.Unused ∧ d.run.fault? = none ∧ d₁.run.fault? = none ∧
      (d.entering 0).state.symbols.knob? "lift" = some 0 ∧
      (d₁.entering 0).state.symbols.knob? "lift" = some 5 ∧
      ¬ ∃ calls, d₁.calls = d.calls ++ calls ∧ d₁.run.state.calls = d₁.calls ++ calls := by
  intro d d₁
  have hok : d.run.fault? = none := Option.isNone_iff_eq_none.1 (by decide +kernel)
  have hok₁ : d₁.run.fault? = none := Option.isNone_iff_eq_none.1 (by decide +kernel)
  refine ⟨⟨rfl, rfl⟩, hok, hok₁, by decide +kernel, by decide +kernel, ?_⟩
  rintro ⟨calls, hcalls, hcalls₁⟩
  -- the first call of each run draws the line of frame zero
  have hlength : d₁.calls.length = 5 := by decide +kernel
  have hfirst : d₁.calls[0]?.bind lineStart? = some 0 := by decide +kernel
  have hsecond : d₁.run.state.calls[5]?.bind lineStart? = some 5 := by decide +kernel
  rw [hcalls₁, List.getElem?_append_right (by omega), hlength] at hsecond
  have hnone : d.calls = [] := rfl
  rw [hcalls, hnone, List.nil_append] at hfirst
  rw [hfirst] at hsecond
  revert hsecond
  decide

end Director

end Flipbook
