import Flipbook.Proofs.DirectorHistory
import Flipbook.Proofs.DocumentFaults
import Flipbook.Proofs.ScheduleFaults

/-!
# Scripts that were read do not go wrong

A script that was read from a document stops for one of four reasons, each of which stands in the
document (`Script.Stops`): knobs vary and the number of frames is missing, a range lies outside the
frames, a coordinate system is left that was not entered, or a solid has a material that the
document does not give.  In a frame nothing else is refused (`Performance.refusal_cases`), because
the knobs of all transformations have values (`Director.isSome_knob?_tableAt`); so with a rasterizer
and an exporter that come to their ends a run comes to its end as well, or stops for one of these
reasons, unless a number of frames is too large for texts or floats (`Script.Overflows`,
`Script.run_of_document`).
-/

namespace Flipbook

open Nesting Performance

/-! ### The materials of a document -/

/-- The names of the materials that a document gives. -/
def Value.materialNames : Value → List String
  | .map fields => match (Value.field fields "constants").asMappingOrEmpty with
    | .ok entries => entries.map (·.1.text)
    | .error _ => []
  | _ => []

namespace SymbolTable

theorem isSome_of_addConstants {entries : List (Scalar × Value)} {t t' : SymbolTable Float}
    (h : t.addConstants entries = .ok t') {name : String}
    (hname : (t.constants? name).isSome ∨ name ∈ entries.map (·.1.text)) :
    (t'.constants? name).isSome := by
  induction entries generalizing t with
  | nil =>
    cases h
    simpa using hname
  | cons e entries ih =>
    obtain ⟨key, hkey, h⟩ := exists_of_bind_eq_ok h
    obtain ⟨c, -, hrest⟩ := exists_of_bind_eq_ok h
    obtain ⟨-, rfl⟩ := Scalar.toText_eq_ok_iff.1 (mapError_eq_ok_iff.1 hkey)
    refine ih hrest ?_
    rw [List.map_cons, List.mem_cons] at hname
    simp only [constants?, setConstants, OrderedMap.get?_insert] at hname ⊢
    by_cases heq : name = e.1.text
    · simp [heq]
    · simpa [heq] using hname

theorem constants_of_addKnobs {entries : List (Scalar × Value)} {t t' : SymbolTable Float}
    (h : t.addKnobs entries = .ok t') : t'.constants = t.constants := by
  induction entries generalizing t with
  | nil =>
    cases h
    rfl
  | cons e entries ih =>
    obtain ⟨key, -, h⟩ := exists_of_bind_eq_ok h
    obtain ⟨x, -, hrest⟩ := exists_of_bind_eq_ok h
    rw [ih hrest, constants_setKnob]

end SymbolTable

namespace Script

/-- **A script knows every material that its document gives.** -/
theorem isSome_constants?_of_document {doc : Value} {t : SymbolTable Float} {script : Script}
    (h : ofDocument doc t = .ok script) {name : String} (hname : name ∈ doc.materialNames) :
    (script.symbols.constants? name).isSome := by
  obtain ⟨fields, rfl⟩ : ∃ fields, doc = .map fields := by
    cases doc with
    | map fields => exact ⟨fields, rfl⟩
    | _ => cases h
  obtain ⟨entries, hops⟩ : ∃ entries, Value.field fields "ops" = .list entries := by
    unfold ofDocument at h
    cases hops : Value.field fields "ops" with
    | list entries => exact ⟨entries, rfl⟩
    | _ => simp only [hops] at h; cases h
  rw [ofDocument_map hops] at h
  obtain ⟨symbols, hsymbols, h⟩ := exists_of_bind_eq_ok h
  obtain ⟨operations, -, h⟩ := exists_of_bind_eq_ok h
  cases h
  -- the materials are added first, and the knobs leave them alone
  obtain ⟨constants, hconstants, hsymbols⟩ := exists_of_bind_eq_ok hsymbols
  obtain ⟨t', hadded, hsymbols⟩ := exists_of_bind_eq_ok hsymbols
  obtain ⟨knobs, -, hsymbols⟩ := exists_of_bind_eq_ok hsymbols
  have hsection : (Value.field fields "constants").asMappingOrEmpty = .ok constants := by
    cases hmap : (Value.field fields "constants").asMappingOrEmpty with
    | error => rw [hmap] at hconstants; cases hconstants
    | ok entries => rw [hmap] at hconstants; cases hconstants; rfl
  simp only [Value.materialNames, hsection] at hname
  rw [SymbolTable.constants?, SymbolTable.constants_of_addKnobs hsymbols]
  exact SymbolTable.isSome_of_addConstants hadded (.inr hname)

end Script

/-! ### Knobs -/

theorem KnobSchedule.isSome_knob?_tableAfter {α : Type} (s : KnobSchedule α) {t : SymbolTable α}
    {name : String} (h : (t.knob? name).isSome) (n : Nat) :
    ((s.tableAfter t n).knob? name).isSome := by
  unfold tableAfter
  induction s.frames.toList.take n generalizing t with
  | nil => exact h
  | cons es ess ih =>
    refine ih ?_
    rw [SymbolTable.knob?_applyEntries, Option.isSome_or, h, Bool.or_true]

namespace Director

/-- **In every frame the knobs of all operations have values.** -/
theorem isSome_knob?_tableAt {α σ : Type} [Zero α] (d : Director α σ) (schedule : KnobSchedule α)
    (f : Nat) {op : Operation α} (hop : op ∈ d.operations) {name : String}
    (hname : op.knob? = some name) :
    ((d.tableAt schedule f).knob? name).isSome := by
  refine schedule.isSome_knob?_tableAfter ?_ _
  rw [knob?_of_declared d.symbols hop hname, Option.isSome_or]
  simp

end Director

/-! ### Refusals in a frame -/

namespace Performance

variable {α σ : Type} [Zero α] [One α] [Add α] [Mul α] [Neg α] [Div α] [NatCast α] [Circular α]
variable {p : Performance α σ} {k : Nat} {op : Operation α}

omit [Add α] [Div α] [NatCast α] in
theorem matrix?_ne_error (hknobs : p.symbols.HasKnobs p.operations) (hop : op ∈ p.operations)
    (f : Fault) : p.matrix? op ≠ some (.error f) := by
  obtain ⟨x, hx⟩ := factor_of_hasKnobs hknobs hop
  cases op with
  | move | scale | rotate =>
    simp only [Operation.factor?] at hx
    simp only [matrix?, hx]
    rintro ⟨⟩
  | _ => rintro ⟨⟩

theorem drawing?_error (hsteps : 3 ≤ p.interpreter.steps) {top : Matrix4 α} {f : Fault}
    (h : p.drawing? top op = some (.error f)) :
    ∃ name, op.material? = some name ∧ p.symbols.constants? name = none ∧
      f = .unknownSymbol .constants name := by
  have hchecked : Mesh.checkedSteps p.interpreter.steps = .ok p.interpreter.steps.toNat :=
    if_neg (by omega)
  cases op with
  | box _ _ name | sphere _ _ name | torus _ _ _ name =>
    simp only [drawing?, hchecked] at h
    have hfails := material_fails p.interpreter p.symbols name
    cases hmaterial : p.interpreter.material p.symbols name with
    | ok => rw [hmaterial] at h; cases h
    | error g =>
      rw [hmaterial] at h
      cases h
      exact hfails f hmaterial
  | _ => cases h

/-- **An operation is refused for leaving too much or for its material.** -/
theorem refusal_cases (hknobs : p.symbols.HasKnobs p.operations)
    (hsteps : 3 ≤ p.interpreter.steps) {f : Fault} (hf : p.refusalAt k = some f) :
    (p.operations[k]? = some .pop ∧ pushes (p.operations.take k) ≤ pops (p.operations.take k) ∧
      f = .stackUnderflow 1) ∨
    ∃ op ∈ p.operations, ∃ name, op.material? = some name ∧ p.symbols.constants? name = none ∧
      f = .unknownSymbol .constants name := by
  unfold refusalAt at hf
  split at hf
  · cases hf
  · rename_i hop
    split at hf
    · rename_i hle
      exact .inl ⟨hop, hle, (Option.some.inj hf).symm⟩
    · cases hf
  · rename_i op _ hop
    have hmem := List.mem_of_getElem? hop
    split at hf
    · rename_i hmatrix
      exact absurd hmatrix (matrix?_ne_error hknobs hmem _)
    · rename_i hdrawing _
      cases hf
      obtain ⟨name, hname, hnone, heq⟩ := drawing?_error hsteps hdrawing
      exact .inr ⟨op, hmem, name, hname, hnone, heq⟩
    · cases hf

end Performance

/-! ### Whole runs -/

namespace Director

variable {α σ : Type} [Zero α] [One α] [Add α] [Sub α] [Mul α] [Div α] [Neg α] [NatCast α]
variable [OfInteger α] [Circular α] [Farthest α]

/-- **With those that draw and export coming to their ends**, a run comes to its end, or its
operations have no schedule, or an operation of some frame is refused, or there are too many frames
to name them all. -/
theorem run_cases {d : Director α σ} (hnew : d.frame? = none) (hsize : 0 ≤ d.size)
    (hraster : d.interpreter.rasterizer.Reliable) (hexporter : d.interpreter.exporter.Reliable)
    (hassemble : ∀ basename frames w,
      (d.interpreter.exporter.assemble basename frames w).fault? = none) :
    (d.run.fault? = none ∧ ∃ summary, RenderSummary.ofDirector? d.run.state = some summary) ∨
    ∃ f, d.run.fault? = some f ∧ (scheduleOf d.operations = .error f ∨
      (∃ config schedule g k, (d.performance config schedule g).refusalAt k = some f) ∨
      f = .conversion .tooManyDigits ∧ ∃ config notices,
        AnimationConfig.ofOperations d.operations d.settings.defaultBasename =
          .ok (config, notices) ∧ Text.writtenBound < config.frameCount) := by
  cases hcompile : d.compile.fault? with
  | some f =>
    have hrun : d.run = d.compile := Outcome.andThen_of_some hcompile _
    exact .inr ⟨f, hrun ▸ hcompile, .inl (scheduleOf_of_fault hcompile)⟩
  | none =>
    obtain ⟨config, notices, schedule, hconfigOf, hscheduleOf, hstate, -⟩ := compile_spec hcompile
    have hprepared : d.Prepared config schedule := hstate
    have hn := (KnobSchedule.lists_ofOperations hscheduleOf).size
    have hconfig : d.compile.state.config? = some config := by rw [hprepared]
    have hrun := run_eq_produce hcompile hconfig
    rcases (hprepared.ready hnew hsize rfl).frames hn with
      ⟨hfault, -, hready⟩ | ⟨g, hg, f, log, -, hstops, hfault, -⟩
    · -- all frames are done, and the exporter puts them together
      obtain ⟨hfinish, hafter⟩ := hready.finished
      rw [Outcome.andThen_of_none hfault] at hrun
      rw [hrun]
      refine .inl ⟨?_, _, hafter.summary⟩
      rw [hfinish, assembling]
      split
      · exact hassemble ..
      · rfl
    · rw [Outcome.andThen_of_some hfault] at hrun
      rw [hrun]
      refine .inr ⟨f, hfault, ?_⟩
      rcases hstops with ⟨k, -, -, hk, -⟩ | ⟨-, -, hlong, rfl, -⟩ | ⟨-, -, hkept, -⟩
      · rw [faultAt_of_reliable (by rwa [performance_interpreter])
          (by rwa [performance_interpreter])] at hk
        exact .inr (.inl ⟨config, schedule, g, k, hk⟩)
      · have hbound := Text.isWritable_eq_false_iff.1 hlong
        exact .inr (.inr ⟨rfl, config, notices, hconfigOf, by omega⟩)
      · -- no picture is turned down
        rw [keepingAt, keeping] at hkept
        split at hkept
        · rw [hexporter.save] at hkept
          cases hkept
        · cases hkept

end Director

namespace Settings

theorem le_number (env : Environment) (name : String) {fallback least : Int}
    (h : least ≤ fallback) : least ≤ number env name fallback least := by
  unfold number Environment.int
  split
  · exact h
  · exact h
  · rename_i n _ hn
    split at hn
    · cases hn
      exact h
    · split at hn <;> cases hn
      · exact h
      · exact le_max_right ..

theorem le_numberOr {given? : Option Int} {fallback least : Int}
    (hgiven : ∀ n, given? = some n → least ≤ n) (env : Environment) (name : String)
    (h : least ≤ fallback) : least ≤ given?.getD (number env name fallback least) := by
  cases given? with
  | none => exact le_number env name h
  | some n => exact hgiven n rfl

end Settings

namespace Script

/-- The number of frames of a script. -/
def frameCount (script : Script) : Int :=
  max (AnimationConfig.scan script.operations).frameCount 1

/-- Why carrying out a script that was read from a document stops. -/
inductive Stops (doc : Value) (script : Script) : Fault → Prop
  /-- A knob varies, and the number of frames is missing. -/
  | missingFrames {v : Vary Float} (hv : .vary v ∈ script.operations)
      (hcount : (AnimationConfig.scan script.operations).frameCount ≤ 0) :
      Stops doc script .missingFrameCount
  /-- A range does not lie within the frames. -/
  | outside {v : Vary Float} (hv : .vary v ∈ script.operations)
      (hrange : v.startFrame < 0 ∨ script.frameCount ≤ v.endFrame)
      (hwritable : (v.rangeFault script.frameCount).isWritable) :
      Stops doc script (.frameRange v.knob v.startFrame v.endFrame script.frameCount)
  /-- The outermost coordinate system is left. -/
  | underflow {k : Nat} (hpop : script.operations[k]? = some .pop)
      (hclosed : pushes (script.operations.take k) ≤ pops (script.operations.take k)) :
      Stops doc script (.stackUnderflow 1)
  /-- A solid has a material that the document does not give. -/
  | unknownMaterial {op : Operation Float} (hop : op ∈ script.operations) {name : String}
      (hname : op.material? = some name) (hmissing : name ∉ doc.materialNames) :
      Stops doc script (.unknownSymbol .constants name)

/-- What else can stop it, for the sake of a number that is too large. -/
inductive Overflows (script : Script) : Fault → Prop
  /-- A range does not lie within the frames, and a number in the message of that has too many
  digits. -/
  | range {v : Vary Float} (hv : .vary v ∈ script.operations)
      (hrange : v.startFrame < 0 ∨ script.frameCount ≤ v.endFrame)
      (hlong : (v.rangeFault script.frameCount).isWritable = false) :
      Overflows script (.conversion .tooManyDigits)
  /-- The number of a frame has too many digits for a name. -/
  | names (hcount : Text.writtenBound < script.frameCount) :
      Overflows script (.conversion .tooManyDigits)
  /-- No float counts the frames. -/
  | floats (hcount : 2 ^ 1023 ≤ script.frameCount) : Overflows script (.conversion .outOfRange)

theorem frameCount_eq {script : Script} {name : String} {config : AnimationConfig}
    {notices : List Notice}
    (h : AnimationConfig.ofOperations script.operations name = .ok (config, notices)) :
    config.frameCount = script.frameCount := by
  unfold AnimationConfig.ofOperations at h
  dsimp only at h
  split at h
  · cases h
  · cases h
    rfl

/-- A script that has no schedule gives the reason, unless a number is too large. -/
theorem scheduleOf_fails (doc : Value) (script : Script) :
    OnlyFails (fun f => script.Stops doc f ∨ script.Overflows f)
      (Director.scheduleOf script.operations) := by
  have hlength : OnlyFails (script.Stops doc)
      (AnimationConfig.ofOperations script.operations "") := by
    refine (AnimationConfig.ofOperations_fails _ _).mono ?_
    rintro _ ⟨rfl, ⟨v, hv⟩, hcount⟩
    exact .missingFrames hv hcount
  refine ((hlength.mono fun _ => .inl).map _).bind_ok fun n hn => ?_
  obtain ⟨⟨config, notices⟩, hconfig, rfl⟩ := exists_of_map_eq_ok hn
  rw [frameCount_eq hconfig]
  refine (KnobSchedule.ofOperations_fails _ _).mono ?_
  rintro _ ⟨v, hv, hmisses⟩
  cases hmisses with
  | outside hrange hwritable => exact .inl (.outside hv hrange hwritable)
  | unwritable hrange hlong => exact .inr (.range hv hrange hlong)
  | endless hstart hend hlong =>
    have hfits : v.endFrame - v.startFrame + 1 ≤ script.frameCount := by omega
    exact .inr (.floats (hlong.trans hfits))

variable {σ : Type} {doc : Value} {script : Script}

/-- An operation of a script that was read is refused for a reason that stands in the document. -/
theorem stops_of_refusal (hdoc : ofDocument doc = .ok script) {d : Director Float σ}
    (hoperations : d.operations = script.operations) (hsymbols : d.symbols = script.symbols)
    (hsteps : 3 ≤ d.interpreter.steps) {config : AnimationConfig} {schedule : KnobSchedule Float}
    {g k : Nat} {f : Fault} (hf : (d.performance config schedule g).refusalAt k = some f) :
    script.Stops doc f := by
  have hknobs : (d.performance config schedule g).symbols.HasKnobs
      (d.performance config schedule g).operations := by
    rw [Director.performance_symbols, Director.performance_operations]
    exact fun op hop name hname =>
      d.isSome_knob?_tableAt schedule g hop (op.knob?_of_factor? hname)
  rcases Performance.refusal_cases hknobs (by rwa [Director.performance_interpreter]) hf with
    ⟨hpop, hclosed, rfl⟩ | ⟨op, hop, name, hname, hnone, rfl⟩
  · rw [Director.performance_operations, hoperations] at hpop hclosed
    exact .underflow hpop hclosed
  · rw [Director.performance_operations, hoperations] at hop
    refine .unknownMaterial hop hname fun hgiven => ?_
    -- a material that the document gives is there in every frame
    have hsome := isSome_constants?_of_document hdoc hgiven
    rw [Director.performance_symbols, Director.tableAt, SymbolTable.constants?,
      KnobSchedule.constants_declared, hsymbols] at hnone
    rw [SymbolTable.constants?, hnone] at hsome
    cases hsome

/-- **Scripts that were read do not go wrong.**  With a rasterizer and an exporter that come to
their ends, a run of a script that was read from a document comes to its end with a summary, or
stops for a reason that stands in the document.  The one other thing that can happen is that a
number is too large for what is done with it: for the message of a range that does not lie within
the frames, for the name of a frame, or for a float. -/
theorem run_of_document (hdoc : ofDocument doc = .ok script) (env : Environment)
    (options : RenderOptions) (hsize : ∀ n, options.size? = some n → 1 ≤ n)
    (hsteps : ∀ n, options.steps? = some n → 3 ≤ n) (scene : Scene Float)
    (rasterizer : Rasterizer Float) (hraster : rasterizer.Reliable) (exporter : Exporter σ)
    (hexporter : exporter.Reliable)
    (hassemble : ∀ basename frames w, (exporter.assemble basename frames w).fault? = none)
    (watches : Event Float → Bool) (world : σ) :
    let d := options.director (.ofEnvironment env) script scene rasterizer exporter watches world
    (d.run.fault? = none ∧ ∃ summary, RenderSummary.ofDirector? d.run.state = some summary) ∨
    ∃ f, d.run.fault? = some f ∧ (script.Stops doc f ∨ script.Overflows f) := by
  intro d
  have hsize' : 1 ≤ d.size := Settings.le_numberOr hsize _ _ (by decide)
  have hsteps' : 3 ≤ d.interpreter.steps := Settings.le_numberOr hsteps _ _ (by decide)
  rcases Director.run_cases (d := d) rfl (by omega) hraster hexporter hassemble with
    hdone | ⟨f, hfault, hcause⟩
  · exact .inl hdone
  refine .inr ⟨f, hfault, ?_⟩
  rcases hcause with hschedule | ⟨config, schedule, g, k, hrefused⟩ |
    ⟨rfl, config, notices, hconfig, hcount⟩
  · exact scheduleOf_fails doc script f hschedule
  · exact .inl (stops_of_refusal hdoc rfl rfl hsteps' hrefused)
  · exact .inr (.names (frameCount_eq hconfig ▸ hcount))

/-- A document with two materials, whose second solid has neither of them. -/
theorem run_of_document_unknown_material :
    let origin : Value := .list [.int 0, .int 0, .int 0]
    let doc : Value := .map [
      (.str "constants", .map [(.str "gold", origin), (.str "tin", origin)]),
      (.str "ops", .list [
        .map [(.str "op", .str "rotate"), (.str "axis", .str "y"), (.str "degrees", .int 90),
          (.str "knob", .str "turn")],
        .map [(.str "op", .str "box"), (.str "d0", origin), (.str "d1", origin),
          (.str "constants", .str "tin")],
        .map [(.str "op", .str "sphere"), (.str "d", origin), (.str "r", .int 1),
          (.str "constants", .str "silver")]])]
    let options : RenderOptions := { size? := some 1, steps? := some 3 }
    ∃ script f, ofDocument doc = .ok script ∧
      (options.director (.ofEnvironment fun _ => none) script .default .silent
        (.silent : Exporter Unit) (fun _ => true) ()).run.fault? = some f ∧
      f.message? = some "unknown constants: 'silver'" ∧ script.Stops doc f := by
  intro origin doc options
  let runOf (script : Script) := (options.director (.ofEnvironment fun _ => none) script .default
    .silent (.silent : Exporter Unit) (fun _ => true) ()).run
  have hmessage : ((ofDocument doc).toOption.bind fun script =>
      (runOf script).fault?.bind Fault.message?) = some "unknown constants: 'silver'" := by
    decide +kernel
  obtain ⟨script, hscript, hmessage⟩ := Option.bind_eq_some_iff.1 hmessage
  obtain ⟨f, hf, hmessage⟩ := Option.bind_eq_some_iff.1 hmessage
  have hdoc : ofDocument doc = .ok script := eq_ok_of_toOption hscript
  refine ⟨script, f, hdoc, hf, hmessage, ?_⟩
  rcases run_of_document hdoc (fun _ => none) options (by rintro _ ⟨⟩; decide)
    (by rintro _ ⟨⟩; decide) .default .silent Rasterizer.reliable_silent .silent
    Exporter.reliable_silent (fun _ _ _ => rfl) (fun _ => true) () with
    ⟨hnone, -⟩ | ⟨g, hg, hcause⟩
  · rw [hnone] at hf
    cases hf
  · rw [hg] at hf
    obtain rfl := Option.some.inj hf
    rcases hcause with hstops | hoverflows
    · exact hstops
    · -- what overflows has no message
      cases hoverflows <;> cases hmessage

/-- A range whose end has 4301 digits stops a run for none of the four reasons. -/
theorem run_of_document_long_range :
    let doc : Value := .map [(.str "ops", .list [
      .map [(.str "op", .str "frames"), (.str "num_frames", .int 2)],
      .map [(.str "op", .str "vary"), (.str "knob", .str "k"),
        (.str "start_frame", .int 0), (.str "end_frame", .int (10 ^ 4300)),
        (.str "start_val", .int 0), (.str "end_val", .int 1)]])]
    let options : RenderOptions := {}
    ∃ script, ofDocument doc = .ok script ∧
      (options.director (.ofEnvironment fun _ => none) script .default .silent
        (.silent : Exporter Unit) (fun _ => true) ()).run.fault? =
          some (.conversion .tooManyDigits) ∧
      ¬ script.Stops doc (.conversion .tooManyDigits) := by
  intro doc options
  let runOf (script : Script) := (options.director (.ofEnvironment fun _ => none) script .default
    .silent (.silent : Exporter Unit) (fun _ => true) ()).run
  have hfault : ((ofDocument doc).toOption.bind fun script => (runOf script).fault?.bind
      fun | .conversion f => some f | _ => none) = some .tooManyDigits := by decide +kernel
  obtain ⟨script, hscript, hfault⟩ := Option.bind_eq_some_iff.1 hfault
  obtain ⟨f, hf, hfault⟩ := Option.bind_eq_some_iff.1 hfault
  obtain rfl : f = .conversion .tooManyDigits := by
    cases f with
    | conversion f => exact congrArg Fault.conversion (Option.some.inj hfault)
    | _ => cases hfault
  exact ⟨script, eq_ok_of_toOption hscript, hf, nofun⟩

end Script

end Flipbook
