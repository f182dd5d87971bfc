import Flipbook.Proofs.DirectorHistory
import Flipbook.Proofs.Writable

/-!
# Preparing a script

Preparing fails as a whole or succeeds as a whole.  When it fails nothing has changed but what was
told; when it succeeds the knobs that the script names and nothing has set are in the table, each
once, in the order in which the script names them first (`SymbolTable.declareKnobs_eq`), and
preparing once more changes nothing.

From then on every transformation finds its knob.  A director that has been prepared is supplied
(`Director.Supplied`), nothing that it can go through takes a knob away
(`Director.Past.supplied`), and an operation that finds its knob does not complain about one
(`Interpreter.admitted_perform`).  So a missing knob can only be reported by those that draw and
export (`Interpreter.Raises`), who may stop for any reason of their own
(`Director.compile_all_or_nothing`).
-/

namespace Flipbook

/-! ### Names that are declared -/

namespace SymbolTable

variable {α : Type} (t : SymbolTable α) (ops : List (Operation α))

/-- The knobs that operations name and that have no value, each once, in the order in which they
are named first. -/
def undeclared : List String :=
  ((ops.filterMap Operation.knob?).filter fun name => !t.knobs.contains name).eraseDups

theorem nodup_undeclared : (t.undeclared ops).Nodup := nodup_eraseDups _

theorem mem_undeclared {name : String} : name ∈ t.undeclared ops ↔
    t.knob? name = none ∧ ∃ op ∈ ops, op.knob? = some name := by
  rw [undeclared, List.mem_eraseDups, List.mem_filter, List.mem_filterMap]
  simp only [Bool.not_eq_true', OrderedMap.contains_eq_false_iff]
  exact and_comm

theorem contains_setKnob (name name' : String) (x : α) :
    (t.setKnob name x).knobs.contains name' = (name' == name || t.knobs.contains name') :=
  t.knobs.contains_insert name name' x

/-- **Declaring adds the undeclared knobs and nothing else.** -/
theorem declareKnobs_eq [Zero α] : t.declareKnobs ops =
    ({ t with knobs := ⟨t.knobs.entries ++ (t.undeclared ops).map fun name => (name, 0)⟩ },
      t.undeclared ops) := by
  induction ops generalizing t with
  | nil => simp [declareKnobs, undeclared]
  | cons op ops ih =>
    cases hop : op.knob? with
    | none =>
      have hnames : t.undeclared (op :: ops) = t.undeclared ops := by
        rw [undeclared, List.filterMap_cons_none hop, undeclared]
      rw [hnames, ← ih]
      simp only [declareKnobs, hop]
    | some name =>
      by_cases hknown : t.knobs.contains name = true
      · have hnames : t.undeclared (op :: ops) = t.undeclared ops := by
          rw [undeclared, List.filterMap_cons_some hop, List.filter_cons_of_neg (by simp [hknown]),
            undeclared]
        rw [hnames, ← ih]
        simp only [declareKnobs, hop, hknown, ↓reduceIte]
      · -- from here on the name is known, so its further mentions do not count
        have hnames : t.undeclared (op :: ops) = name :: (t.setKnob name 0).undeclared ops := by
          rw [undeclared, List.filterMap_cons_some hop, List.filter_cons_of_pos (by simp [hknown]),
            List.eraseDups_cons, List.filter_filter, undeclared]
          simp only [contains_setKnob, Bool.not_or]
        have hput : (t.setKnob name 0).knobs.entries = t.knobs.entries ++ [(name, 0)] := by
          refine OrderedMap.put_of_lookup_eq_none ?_ 0
          exact OrderedMap.contains_eq_false_iff.1 (Bool.eq_false_iff.2 hknown)
        simp only [declareKnobs, hop, hknown, Bool.false_eq_true, ↓reduceIte, ih, hnames, hput,
          List.map_cons, List.append_assoc, List.singleton_append]
        rfl

/-- Every knob that the operations name has a value. -/
def Declares : Prop := ∀ op ∈ ops, ∀ name, op.knob? = some name → (t.knob? name).isSome

variable {t ops}

theorem declares_declareKnobs [Zero α] : (t.declareKnobs ops).1.Declares ops := by
  intro op hop name hname
  rw [knob?_declareKnobs, if_pos ⟨op, hop, hname⟩, Option.isSome_or]
  simp

theorem Declares.declareKnobs [Zero α] (h : t.Declares ops) : t.declareKnobs ops = (t, []) := by
  have hnone : t.undeclared ops = [] := by
    rw [List.eq_nil_iff_forall_not_mem]
    intro name hname
    obtain ⟨hmissing, op, hop, hnamed⟩ := (mem_undeclared ..).1 hname
    have hsome := h op hop name hnamed
    rw [hmissing] at hsome
    cases hsome
  rw [declareKnobs_eq, hnone]
  simp

theorem Declares.hasKnobs (h : t.Declares ops) : t.HasKnobs ops :=
  fun op hop name hname => h op hop name (op.knob?_of_factor? hname)

theorem Declares.mono {t' : SymbolTable α} (h : t.Declares ops)
    (hkeep : ∀ name, (t.knob? name).isSome → (t'.knob? name).isSome) : t'.Declares ops :=
  fun op hop name hname => hkeep name (h op hop name hname)

theorem Declares.setKnob (h : t.Declares ops) (name : String) (x : α) :
    (t.setKnob name x).Declares ops := by
  refine h.mono fun name' hname => ?_
  rw [knob?_setKnob]
  split
  · rfl
  · exact hname

theorem Declares.applyEntries (h : t.Declares ops) (entries : Array (KnobEntry α)) :
    (t.applyEntries entries).Declares ops := by
  refine h.mono fun name hname => ?_
  rw [knob?_applyEntries, Option.isSome_or, hname, Bool.or_true]

end SymbolTable

/-! ### Steps that stop for some reasons only -/

namespace Outcome

variable {σ τ : Type} {P : Fault → Prop}

/-- Every fault is one that `P` allows. -/
def OnlyStops (P : Fault → Prop) (o : Outcome σ) : Prop := ∀ f, o.fault? = some f → P f

theorem onlyStops_done (s : σ) : (done s).OnlyStops P := by
  rintro f ⟨⟩

theorem onlyStops_failed (s : σ) {f : Fault} (h : P f) : (failed s f).OnlyStops P := by
  rintro g ⟨⟩
  exact h

end Outcome

/-! ### Operations that find their knobs -/

namespace Interpreter

variable {α σ : Type} (I : Interpreter α σ)

/-- One of those that draw and export stops with a fault at something that it is asked for. -/
def Raises (f : Fault) : Prop :=
  (∃ e c, (I.draw e c).fault? = some f) ∨ ∃ e w, (I.handOver e w).fault? = some f

/-- The fault reports no missing knob, or it comes from those that draw and export. -/
def Admits (f : Fault) : Prop := (∀ name, f ≠ .unknownSymbol .knob name) ∨ I.Raises f

variable {I} [Zero α] [One α]

theorem fault_addVertices {b : GeometryBuffer α} {vertices : Array (Vec3 α)} {f : Fault}
    (h : (b.addVertices vertices).fault? = some f) : ∀ name, f ≠ .unknownSymbol .knob name := by
  unfold GeometryBuffer.addVertices GeometryBuffer.append at h
  split at h
  · unfold GeometryBuffer.write at h
    split at h <;> cases h
    rintro _ ⟨⟩
  · cases h
    rintro _ ⟨⟩

variable [Add α] [Mul α] {s : Stage α σ}

theorem admitted_drawPolygons (c : Constants α) (vertices : Array (Vec3 α)) :
    (I.drawPolygons c vertices s).OnlyStops I.Admits := by
  intro f hf
  unfold drawPolygons drawSolid at hf
  split at hf
  · rename_i hadded
    cases hf
    exact .inl (fault_addVertices (congrArg Outcome.fault? hadded))
  · exact .inr (.inl ⟨.solid _ c, _, hf⟩)

theorem admitted_drawEdges (ends : Array (Vec3 α)) : (I.drawEdges ends s).OnlyStops I.Admits := by
  intro f hf
  unfold drawEdges drawLine at hf
  split at hf
  · rename_i hadded
    cases hf
    exact .inl (fault_addVertices (congrArg Outcome.fault? hadded))
  · exact .inr (.inl ⟨.line _, _, hf⟩)

theorem admitted_drawShape (symbols : SymbolTable α) (name : Option String)
    (mesh : Except GeometryFault (Array (Vec3 α))) :
    (I.drawShape symbols name mesh s).OnlyStops I.Admits := by
  unfold drawShape
  split
  · rename_i hmaterial
    obtain ⟨n, -, -, rfl⟩ := Performance.material_fails I symbols name _ hmaterial
    exact Outcome.onlyStops_failed s (.inl (by rintro _ ⟨⟩))
  · rename_i g _
    refine Outcome.onlyStops_failed s (.inl fun name hname => ?_)
    rcases (Fault.geometry g).raised_cases with ⟨-, h⟩ | ⟨-, h⟩ <;> rw [h] at hname <;> cases hname
  · exact admitted_drawPolygons _ _

variable [Neg α] [Div α] [NatCast α] [Circular α]

/-- **An operation that finds its knob does not complain about one.** -/
theorem admitted_perform {symbols : SymbolTable α} {ops : List (Operation α)}
    (hknobs : symbols.HasKnobs ops) {op : Operation α} (hop : op ∈ ops) (s : Stage α σ) :
    (I.perform symbols op s).OnlyStops I.Admits := by
  obtain ⟨k, hk⟩ := Performance.factor_of_hasKnobs hknobs hop
  cases op with
  | frames | basename | vary | push => exact Outcome.onlyStops_done _
  | pop =>
    show (leave s).OnlyStops I.Admits
    unfold leave
    split
    · exact Outcome.onlyStops_done _
    · exact Outcome.onlyStops_failed s (.inl (by rintro _ ⟨⟩))
  | move | scale | rotate =>
    simp only [Operation.factor?] at hk
    simp only [perform, hk]
    exact Outcome.onlyStops_done _
  | box | sphere | torus => exact admitted_drawShape _ _ _
  | line => exact admitted_drawEdges _
  | save filename =>
    intro f hf
    change (I.exporter.save _ filename _).fault? = some f at hf
    exact .inr (.inr ⟨.save _ filename, _, hf⟩)
  | display =>
    intro f hf
    change (I.exporter.display _ _).fault? = some f at hf
    exact .inr (.inr ⟨.display _, _, hf⟩)

theorem admitted_run {symbols : SymbolTable α} {ops : List (Operation α)}
    (hknobs : symbols.HasKnobs ops) (s : Stage α σ) :
    (I.run symbols ops s).OnlyStops I.Admits := by
  unfold run
  -- the operations to come are part of all operations, whose knobs are there
  have go (rest : List (Operation α)) (hrest : ∀ op ∈ rest, op ∈ ops) (s : Stage α σ) :
      (Outcome.sequence (I.execute symbols) rest s).OnlyStops I.Admits := by
    induction rest generalizing s with
    | nil => exact Outcome.onlyStops_done s
    | cons op rest ih =>
      intro f hf
      rw [Outcome.sequence_cons] at hf
      cases hstep : (I.execute symbols op s).fault? with
      | some g =>
        rw [Outcome.andThen_of_some hstep] at hf
        exact admitted_perform hknobs (hrest op List.mem_cons_self) _ f hf
      | none =>
        rw [Outcome.andThen_of_none hstep] at hf
        exact ih (fun op' hop' => hrest op' (List.mem_cons_of_mem op hop')) _ f hf
  exact go ops (fun _ h => h) s

end Interpreter

/-! ### Directors that have been prepared -/

namespace Director

open Interpreter

variable {α σ : Type} [Add α] [Sub α] [Mul α] [Div α] [OfInteger α]

/-- What the director has prepared is what its operations say. -/
structure IsPrepared (d : Director α σ) (config : AnimationConfig) (schedule : KnobSchedule α) :
    Prop where
  configOf : ∃ notices, AnimationConfig.ofOperations d.operations d.settings.defaultBasename =
    .ok (config, notices)
  scheduleOf : KnobSchedule.ofOperations d.operations config.frameCount = .ok schedule
  config : d.config? = some config
  schedule : d.schedule? = some schedule

/-- The director has all that `new` has prepared, and every knob that it names has a value. -/
structure Supplied (new d : Director α σ) : Prop where
  prepared : ∃ config schedule, new.IsPrepared config schedule
  fixed : d.fixed = new.fixed
  declares : d.symbols.Declares new.operations

/-- The director is still supplied, and no knob is reported missing. -/
structure Holds (new : Director α σ) (o : Outcome (Director α σ)) : Prop where
  state : Supplied new o.state
  fault : o.OnlyStops new.interpreter.Admits

variable {new d d' : Director α σ} {o : Outcome (Director α σ)}
variable {next : Director α σ → Outcome (Director α σ)}

theorem Supplied.of_eq (h : Supplied new d) (hfixed : d'.fixed = d.fixed)
    (hdeclares : d'.symbols.Declares new.operations) : Supplied new d' :=
  ⟨h.prepared, hfixed.trans h.fixed, hdeclares⟩

theorem Supplied.operations_eq (h : Supplied new d) : d.operations = new.operations :=
  congrArg (·.1) h.fixed

theorem Supplied.interpreter_eq (h : Supplied new d) : d.interpreter = new.interpreter :=
  congrArg (·.2.1) h.fixed

theorem Holds.done (h : Supplied new d) : Holds new (.done d) := ⟨h, Outcome.onlyStops_done d⟩

theorem Holds.andThen (h : Holds new o) (hnext : ∀ d, Supplied new d → Holds new (next d)) :
    Holds new (o.andThen next) := by
  cases ho : o.fault? with
  | none =>
    rw [Outcome.andThen_of_none ho]
    exact hnext _ h.state
  | some f =>
    rw [Outcome.andThen_of_some ho]
    exact h

theorem Holds.sequence {ι : Type} {step : ι → Director α σ → Outcome (Director α σ)}
    (hstep : ∀ i d, Supplied new d → Holds new (step i d)) (is : List ι) (h : Supplied new d) :
    Holds new (Outcome.sequence step is d) := by
  induction is generalizing d with
  | nil => exact .done h
  | cons i is ih => exact (hstep i d h).andThen fun d hd => ih hd

theorem Holds.raises (h : Holds new o) {name : String}
    (hfault : o.fault? = some (.unknownSymbol .knob name)) :
    new.interpreter.Raises (.unknownSymbol .knob name) :=
  (h.fault _ hfault).resolve_left fun hne => hne name rfl

theorem Supplied.keepFrame (h : Supplied new d) (config : AnimationConfig) (index : Nat) :
    Holds new (d.keepFrame config index) := by
  obtain ⟨hfixed, hsymbols⟩ := d.keepFrame_state config index
  refine ⟨h.of_eq hfixed (hsymbols ▸ h.declares), ?_⟩
  unfold Director.keepFrame saveFrame
  split
  · cases d.frame? with
    | none => exact Outcome.onlyStops_done d
    | some frame =>
      cases hindex : FrameName.checkedIndex index with
      | error e => exact Outcome.onlyStops_failed d (.inl (by rintro _ ⟨⟩))
      | ok i =>
        intro f hf
        change (Outcome.andThen (receive _ _) _).fault? = some f at hf
        generalize ho : receive _ _ = o at hf
        cases hfault : o.fault? with
        | none =>
          rw [Outcome.andThen_of_none hfault] at hf
          cases hf
        | some g =>
          rw [Outcome.andThen_of_some hfault, ← ho, interpreter_record, h.interpreter_eq] at hf
          exact .inr (.inr ⟨.save _ _, _, hf⟩)
  · exact Outcome.onlyStops_done d

theorem Supplied.finish (h : Supplied new d) (config : AnimationConfig) :
    Holds new (d.finish config) := by
  obtain ⟨hfixed, hsymbols⟩ := d.finish_state config
  refine ⟨h.of_eq hfixed (hsymbols ▸ h.declares), ?_⟩
  unfold Director.finish assemble
  split
  · intro f hf
    simp only [tell, interpreter_record, h.interpreter_eq] at hf
    exact .inr (.inr ⟨.assemble _ _, _, hf⟩)
  · exact Outcome.onlyStops_done d

variable [Zero α]

theorem supplied_of_compile (hcompile : d.compile.fault? = none) :
    Supplied d.compile.state d.compile.state := by
  obtain ⟨config, notices, schedule, hconfig, hschedule, hstate, -⟩ := compile_spec hcompile
  have hoperations : d.compile.state.operations = d.operations := by rw [hstate]
  have hsettings : d.compile.state.settings = d.settings := by rw [hstate]
  refine ⟨⟨config, schedule, ⟨notices, ?_⟩, ?_, ?_, ?_⟩, rfl, ?_⟩
  · rw [hoperations, hsettings, hconfig]
  · rw [hoperations, hschedule]
  · rw [hstate]
  · rw [hstate]
  · rw [hoperations, hstate]
    exact SymbolTable.declares_declareKnobs

/-- **A script that has a schedule** is prepared with it. -/
theorem prepared_of_schedule {config : AnimationConfig} {notices : List Notice}
    {schedule : KnobSchedule α}
    (hconfig : AnimationConfig.ofOperations d.operations d.settings.defaultBasename =
      .ok (config, notices))
    (hschedule : KnobSchedule.ofOperations d.operations config.frameCount = .ok schedule) :
    d.compile.fault? = none ∧ d.Prepared config schedule := by
  have hfault : d.compile.fault? = none := by
    unfold Director.compile
    have htold : (notices.foldl tell d).operations = d.operations := by
      rw [(foldl_tell notices d).1]
    simp only [hconfig, htold, hschedule]
    rfl
  refine ⟨hfault, ?_⟩
  obtain ⟨config', notices', schedule', hconfig', hschedule', hstate, -⟩ := compile_spec hfault
  -- the same script has the same config and the same schedule
  obtain ⟨rfl, rfl⟩ := Prod.mk.inj (Except.ok.inj (hconfig.symm.trans hconfig'))
  obtain rfl := Except.ok.inj (hschedule.symm.trans hschedule')
  exact hstate

/-- **Preparing once more** succeeds and changes nothing but what is told. -/
theorem Supplied.compile_eq (h : Supplied new d) : d.compile.fault? = none ∧
    d.compile.state = { d with events := d.compile.state.events } := by
  obtain ⟨config, schedule, ⟨notices, hconfigOf⟩, hscheduleOf, hconfig, hschedule⟩ := h.prepared
  have hsettings : d.settings = new.settings := congrArg (·.2.2.1) h.fixed
  rw [← hsettings, ← h.operations_eq] at hconfigOf
  rw [← h.operations_eq] at hscheduleOf
  obtain ⟨hfault, hstate⟩ := prepared_of_schedule hconfigOf hscheduleOf
  refine ⟨hfault, ?_⟩
  have hdeclared : (d.symbols.declareKnobs d.operations).1 = d.symbols := by
    rw [h.operations_eq, h.declares.declareKnobs]
  rw [Prepared, hdeclared, ← hconfig, ← hschedule, ← config_of_fixed h.fixed,
    ← schedule_of_fixed h.fixed] at hstate
  exact hstate

theorem Supplied.compile (h : Supplied new d) : Holds new d.compile := by
  obtain ⟨hfault, hstate⟩ := h.compile_eq
  refine ⟨?_, fun f hf => ?_⟩
  · rw [hstate]
    exact h.of_eq rfl h.declares
  · rw [hfault] at hf
    cases hf

theorem calls_compile (d : Director α σ) : d.compile.state.calls = d.calls := by
  cases hcompile : d.compile.fault? with
  | some f => exact (compile_of_error (scheduleOf_of_fault hcompile)).2.2
  | none =>
    obtain ⟨config, notices, schedule, -, -, -, hevents⟩ := compile_spec hcompile
    exact calls_of_notices _ hevents

variable [One α] [Neg α] [NatCast α] [Circular α] [Farthest α]

/-- Writing the entries of a frame leaves every knob a value. -/
theorem Supplied.drawFrame (h : Supplied new d) (s : KnobSchedule α) (index : Int) :
    Holds new (d.drawFrame s index) := by
  unfold Director.drawFrame
  have hframe (frame : Frame α) : Supplied new { d with frame? := some frame } :=
    h.of_eq rfl h.declares
  cases hprepare : d.prepareFrame index with
  | error f =>
    refine ⟨h, Outcome.onlyStops_failed d (.inl ?_)⟩
    unfold prepareFrame Frame.create at hprepare
    split at hprepare
    · split at hprepare <;> cases hprepare
      rintro _ ⟨⟩
    · cases hprepare
  | ok frame =>
    cases hentries : s.entriesAt index with
    | error f =>
      refine ⟨hframe frame, Outcome.onlyStops_failed _ (.inl ?_)⟩
      unfold KnobSchedule.entriesAt at hentries
      dsimp only at hentries
      split at hentries
      · split at hentries <;> cases hentries
        rintro _ ⟨⟩
      · cases hentries
        rintro _ ⟨⟩
    | ok entries =>
      have hdeclares := h.declares.applyEntries entries
      refine ⟨h.of_eq rfl hdeclares, ?_⟩
      have hrun := admitted_run (I := new.interpreter) hdeclares.hasKnobs
        (({ d with symbols := d.symbols.applyEntries entries, frame? := some frame } :
          Director α σ).stage frame)
      rw [← h.interpreter_eq, ← h.operations_eq] at hrun
      exact h.interpreter_eq ▸ hrun

theorem Supplied.renderFrame (h : Supplied new d) (index : Int) :
    Holds new (d.renderFrame index) := by
  obtain ⟨config, schedule, hprepared⟩ := h.prepared
  rw [Director.renderFrame, schedule_of_fixed h.fixed, hprepared.schedule]
  exact h.drawFrame schedule index

theorem Supplied.run (h : Supplied new d) : Holds new d.run := by
  refine h.compile.andThen fun d hd => ?_
  split
  · rename_i config _
    refine Holds.andThen (.sequence (fun f d hd => ?_) _ hd) fun d hd => hd.finish config
    exact (hd.renderFrame f).andThen fun d hd => hd.keepFrame config f
  · exact .done hd

/-- **Nothing that a director goes through takes its knobs away.** -/
theorem Past.supplied (hnew : Supplied new new) (h : Past new d) : Supplied new d := by
  induction h with
  | new => exact hnew
  | compiled _ ih => exact ih.compile.state
  | rendered _ index ih => exact (ih.renderFrame index).state
  | ran _ ih => exact ih.run.state
  | overwritten _ _ _ _ _ ih => exact ih.of_eq rfl ih.declares
  | knobSet _ name x ih => exact ih.of_eq rfl (ih.declares.setKnob name x)
  | constantsSet _ _ _ ih => exact ih.of_eq rfl ih.declares
  | elsewhere _ _ _ ih => exact ih.of_eq rfl ih.declares

/-- **Preparing changes all that it should or nothing, and no knob is missed after it.**  The only
ones who can still report a missing knob are those that draw and export. -/
theorem compile_all_or_nothing (d : Director α σ) :
    d.compile.state.calls = d.calls ∧
    (∀ f, d.compile.fault? = some f →
      d.compile.state = { d with events := d.compile.state.events }) ∧
    (d.compile.fault? = none →
      let d₁ := d.compile.state
      let names := d.symbols.undeclared d.operations
      (∃ config schedule, d₁ = { d with
        symbols := { d.symbols with
          knobs := ⟨d.symbols.knobs.entries ++ names.map fun name => (name, 0)⟩ }
        config? := some config
        schedule? := some schedule
        events := d₁.events }) ∧
      names.Nodup ∧
      (∀ name, name ∈ names ↔
        d.symbols.knob? name = none ∧ ∃ op ∈ d.operations, op.knob? = some name) ∧
      (∀ name x, d.symbols.knob? name = some x → d₁.symbols.knob? name = some x) ∧
      ∀ d', Past d₁ d' →
        d'.compile.fault? = none ∧
        d'.compile.state = { d' with events := d'.compile.state.events } ∧
        d'.config? = d₁.config? ∧ d'.schedule? = d₁.schedule? ∧ ∀ name,
        (∀ index, (d'.renderFrame index).fault? = some (.unknownSymbol .knob name) →
          d.interpreter.Raises (.unknownSymbol .knob name)) ∧
        (d'.run.fault? = some (.unknownSymbol .knob name) →
          d.interpreter.Raises (.unknownSymbol .knob name))) := by
  refine ⟨calls_compile d, ?_, ?_⟩
  · intro f hf
    exact (compile_of_error (scheduleOf_of_fault hf)).2.1
  intro hcompile d₁ names
  obtain ⟨config, notices, schedule, -, -, hstate, -⟩ := compile_spec hcompile
  have hdeclared := d.symbols.declareKnobs_eq d.operations
  have hinterpreter : d₁.interpreter = d.interpreter := by
    show d.compile.state.interpreter = _
    rw [hstate]
  refine ⟨⟨config, schedule, ?_⟩, d.symbols.nodup_undeclared _, ?_, ?_, ?_⟩
  · rw [hdeclared] at hstate
    exact hstate
  · intro name
    exact d.symbols.mem_undeclared _
  · intro name x hx
    show d.compile.state.symbols.knob? name = some x
    rw [hstate, SymbolTable.knob?_declareKnobs, hx]
    rfl
  · intro d' hpast
    have hsupplied := hpast.supplied (supplied_of_compile hcompile)
    obtain ⟨hfault, hagain⟩ := hsupplied.compile_eq
    refine ⟨hfault, hagain, config_of_fixed hsupplied.fixed, schedule_of_fixed hsupplied.fixed, ?_⟩
    intro name
    rw [← hinterpreter]
    exact ⟨fun index => (hsupplied.renderFrame index).raises, hsupplied.run.raises⟩

/-- A script that mentions a knob twice and another one that is set already, and the same script
with a range that is too long. -/
theorem compile_all_or_nothing_repeated_mention :
    let good : Director Float Unit := {
      operations := [.frames 2, .rotate .y 90 (some "turn"), .vary ⟨"size", 0, 1, 0, 1⟩,
        .scale ⟨1, 1, 1⟩ (some "turn"), .move ⟨1, 0, 0⟩ (some "lift")]
      symbols := ⟨.ofList [("lift", 2)], .empty⟩
      interpreter := ⟨.silent, .silent, .default, 3, fun _ => true⟩
      settings := .ofEnvironment fun _ => none
      outputDir := .ofString "out"
      ext := "ppm"
      size := 2
      world := () }
    let bad := { good with operations := .vary ⟨"size", 0, 2, 0, 1⟩ :: good.operations }
    bad.compile.fault? = some (.frameRange "size" 0 2 2) ∧
      bad.compile.state.symbols = bad.symbols ∧ good.compile.fault? = none ∧
      good.compile.state.symbols.knobs.entries = [("lift", 2), ("turn", 0), ("size", 0)] ∧
      Past good.compile.state good.compile.state ∧
      ∀ index name, (good.compile.state.renderFrame index).fault? ≠
        some (.unknownSymbol .knob name) := by
  intro good bad
  have hwritable : (Fault.frameRange "size" 0 2 2).isWritable = true := by decide +kernel
  have hbad : bad.compile.fault? = some (.frameRange "size" 0 2 2) :=
    congrArg some (Fault.raised_of_isWritable hwritable)
  have hgood : good.compile.fault? = none := Option.isNone_iff_eq_none.1 (by decide +kernel)
  obtain ⟨-, hfailed, -⟩ := compile_all_or_nothing bad
  obtain ⟨-, -, hprepared⟩ := compile_all_or_nothing good
  obtain ⟨⟨config, schedule, hstate⟩, -, -, -, hlater⟩ := hprepared hgood
  obtain ⟨-, -, -, -, hfound⟩ := hlater _ .new
  have hnames : good.symbols.undeclared good.operations = ["turn", "size"] := by decide +kernel
  refine ⟨hbad, ?_, hgood, ?_, .new, ?_⟩
  · rw [hfailed _ hbad]
  · rw [hstate, hnames]
    rfl
  · intro index name hfault
    -- the silent ones raise nothing
    obtain ⟨e, c, h⟩ | ⟨e, w, h⟩ := (hfound name).1 index hfault
    · cases e <;> cases h
    · cases e <;> cases h

end Director

end Flipbook
