import Flipbook.Proofs.DirectedRun
import Flipbook.Proofs.FrameNames
import Flipbook.Proofs.WrittenFiles
import Mathlib.Data.List.Nodup

/-!
# An animation is made of the frames of its run

While a run goes on, the frames that it has drawn stand in their files.  A frame that is drawn adds
its file (`Director.Keeps.produced`): its operations write only what they save under other names,
and its own file is in no other frame's place, for different frames have different names.  So when
the frames are put together each file holds the final picture of its own frame, and these pictures
are read in the order of the frames, whatever files there were before
(`Director.assembled_from_frames`).
-/

namespace Flipbook

/-! ### What operations do to the world -/

namespace Interpreter

variable {α σ : Type} {I : Interpreter α σ} {P : σ → Prop} {s : Stage α σ}

theorem world_receive (r : Report σ) (s : Stage α σ) : (I.receive r s).state.world = r.world :=
  (I.receive_spec r s).2.2.1

theorem world_leave (s : Stage α σ) : (leave s).state.world = s.world := by
  unfold leave
  split <;> rfl

variable [Add α] [Mul α]

theorem world_transform (m : Except Fault (Matrix4 α)) (s : Stage α σ) :
    (transform m s).state.world = s.world := by
  cases m <;> rfl

theorem world_drawSolid (c : Constants α) (added : Outcome (GeometryBuffer α)) (s : Stage α σ) :
    (I.drawSolid c added s).state.world = s.world := by
  unfold drawSolid
  split
  · rfl
  · exact I.record_world ..

theorem world_drawLine (added : Outcome (GeometryBuffer α)) (s : Stage α σ) :
    (I.drawLine added s).state.world = s.world := by
  unfold drawLine
  split
  · rfl
  · exact I.record_world ..

variable [Zero α] [One α]

theorem world_drawShape (symbols : SymbolTable α) (name : Option String)
    (mesh : Except GeometryFault (Array (Vec3 α))) (s : Stage α σ) :
    (I.drawShape symbols name mesh s).state.world = s.world := by
  unfold drawShape
  split
  · rfl
  · rfl
  · exact world_drawSolid ..

variable [Neg α] [Div α] [NatCast α] [Circular α]

/-- **What saving and showing pictures keeps of the world**, operations keep. -/
theorem world_run {symbols : SymbolTable α} {ops : List (Operation α)}
    (hsave : ∀ picture (filename : String) w, .save filename ∈ ops → P w →
      P (I.exporter.save picture filename w).world)
    (hdisplay : ∀ picture w, P w → P (I.exporter.display picture w).world) (hs : P s.world) :
    P (I.run symbols ops s).state.world := by
  refine Outcome.sequence_state (P := fun s : Stage α σ => P s.world) (fun op hop s hs => ?_) hs
  have hstep : P (I.record (.step s.frame.index op) s).world := by
    rw [record_world]
    exact hs
  unfold execute
  generalize I.record (.step s.frame.index op) s = s at hstep
  cases op with
  | frames | basename | vary | push => exact hstep
  | pop => exact (world_leave s).symm ▸ hstep
  | move | scale | rotate => exact (world_transform _ s).symm ▸ hstep
  | box | sphere | torus => exact (world_drawShape _ _ _ s).symm ▸ hstep
  | line => exact (world_drawLine _ s).symm ▸ hstep
  | save filename =>
    show P (I.receive _ _).state.world
    rw [world_receive, record_world]
    exact hsave _ filename _ hop hstep
  | display =>
    show P (I.receive _ _).state.world
    rw [world_receive, record_world]
    exact hdisplay _ _ hstep

end Interpreter

/-! ### The names of the frames of a run -/

namespace Director

open FileTree PictureFile

variable {α σ : Type}

theorem world_receive (r : Report σ) (d : Director α σ) : (d.receive r).state.world = r.world :=
  congrArg Director.world (foldl_tell r.notices { d with world := r.world }).1

variable {d d' : Director α Workspace}

theorem placeOf_framePath_injective (hext : FrameName.PlainExtension d.ext)
    (config : AnimationConfig) (current : Place) :
    Function.Injective fun f : Nat => placeOf current (d.framePath config f) := by
  obtain ⟨root, before, stem, hpath⟩ :=
    FrameName.exists_path config.basename d.settings.imageExt hext d.outputDir
  have hplace (f : Nat) : placeOf current (d.framePath config f) =
      placeOf current ⟨root, before⟩ ++
        [stem ++ (Text.zeroPadded 3 f ++ "." ++ d.ext)] := by
    rw [framePath, hpath]
    refine placeOf_of_last (fun hdots => ?_) current
    -- the last part is too long for two dots
    have hlength := congrArg String.length hdots
    have hnumber := FrameName.length_numbered hext f
    rw [String.length_append] at hlength
    have htwo : "..".length = 2 := rfl
    omega
  intro f g hfg
  simp only [hplace, List.append_cancel_left_eq, List.cons.injEq, and_true,
    String.append_right_inj, String.append_left_inj] at hfg
  exact Text.zeroPadded_injective 3 hfg

theorem resolve_framePath (hext : FrameName.PlainExtension d.ext)
    (houtput : d.outputDir.Canonical) (config : AnimationConfig) (f : Nat) (fallback : String) :
    .ofString (d.framePath config f).text = d.framePath config f ∧
      resolve (d.framePath config f) fallback = .ok (d.framePath config f) :=
  ⟨PathName.ofString_text (FrameName.canonical_path _ _ houtput f),
    FrameName.resolve_path _ _ hext f fallback⟩

/-- The texts of different frames are different, for the path names can be read back from them. -/
theorem text_framePath_injective (hext : FrameName.PlainExtension d.ext)
    (houtput : d.outputDir.Canonical) (config : AnimationConfig) :
    Function.Injective fun f : Nat => (d.framePath config f).text := by
  intro f g hfg
  have hpath := congrArg PathName.ofString hfg
  simp only [(resolve_framePath hext houtput config _ "").1] at hpath
  exact FrameName.path_injective config.basename d.settings.imageExt hext d.outputDir hpath

/-! ### What a frame does to the files -/

variable {config : AnimationConfig} {schedule : KnobSchedule α} {f : Nat}
variable {writes : PathName → Bool} {directory? : Option PathName} {defaultExt : String}
variable {delay : Int}

theorem report_of_keepFrame {d : Director α σ} (hanimation : config.isAnimation = true)
    {frame : Frame α} (hframe : d.frame? = some frame)
    (hok : (d.keepFrame config f).fault? = none) :
    let r := d.interpreter.exporter.save frame.canvas.picture (d.framePath config f).text d.world
    r.fault? = none ∧ (d.keepFrame config f).state.world = r.world := by
  intro r
  have hindex : Text.isWritable f = true := by
    by_contra hlong
    rw [keepFrame_of_not hanimation hframe (Bool.eq_false_iff.2 hlong)] at hok
    cases hok
  rw [keepFrame_eq hanimation hframe hindex] at hok ⊢
  have hreceived := (Outcome.andThen_fault_none hok).1
  refine ⟨hreceived, ?_⟩
  rw [Outcome.andThen_of_none hreceived, Outcome.done_state]
  split
  · rw [tell, world_record, world_receive]
  · rw [world_receive]

/-- **A frame that is kept is saved under its name**, and nothing else is written. -/
theorem stored_of_keepFrame
    (hexporter : d.interpreter.exporter = .workspace writes directory? defaultExt delay)
    (hanimation : config.isAnimation = true) {frame : Frame α} (hframe : d.frame? = some frame)
    (hresolve : resolve (.ofString (d.framePath config f).text) defaultExt =
      .ok (d.framePath config f))
    (hok : (d.keepFrame config f).fault? = none) :
    Changes (· = placeOf d.world.files.current (d.framePath config f)) d.world.files
        (d.keepFrame config f).state.world.files ∧
      (d.keepFrame config f).state.world.files.lookup? (d.framePath config f) =
        some (.file (.picture frame.canvas.picture)) := by
  obtain ⟨hfault, hworld⟩ := report_of_keepFrame hanimation hframe hok
  have hchanges := changes_save writes d.world.files frame.canvas.picture
    (d.framePath config f).text defaultExt
  rw [hworld]
  rw [hexporter] at hfault ⊢
  simp only [Exporter.workspace] at hfault ⊢
  cases hsave : save writes d.world.files frame.canvas.picture (d.framePath config f).text
      defaultExt with
  | mk files result =>
    rw [hsave] at hfault hchanges
    cases result with
    | error => cases hfault
    | ok p =>
      have hstored := lookup_save (p := p) (congrArg Prod.snd hsave)
      rw [hsave, hresolve] at hstored
      obtain ⟨hp, hlookup⟩ := hstored
      obtain rfl := Except.ok.inj hp
      refine ⟨hchanges.mono ?_, hlookup⟩
      rintro place ⟨q, hq, rfl⟩
      obtain rfl := Except.ok.inj (hresolve.symm.trans hq)
      rfl

variable [Zero α] [One α] [Add α] [Sub α] [Mul α] [Div α] [Neg α] [NatCast α]
variable [OfInteger α] [Circular α] [Farthest α]

/-- The run up to the point at which its frames are about to be put together. -/
def producing (d : Director α σ) : Outcome (Director α σ) :=
  d.compile.andThen fun d => match d.config? with
    | some config =>
      Outcome.sequence (produceFrame config) (List.range config.frameCount.toNat) d
    | none => .done d

/-- The frame `f` of the run is drawn, and `picture` is what it shows in the end. -/
def Draws (d : Director α σ) (f : Nat) (picture : Picture) : Prop :=
  ((d.entering f).andThen interpretFrame).fault? = none ∧
    ∃ frame, ((d.entering f).andThen interpretFrame).state.frame? = some frame ∧
      frame.canvas.picture = picture

/-- The places that operations save to, seen from a working directory. -/
def SavesTo (ops : List (Operation α)) (defaultExt : String) (current place : Place) : Prop :=
  ∃ filename, .save filename ∈ ops ∧ ∃ p, resolve (.ofString filename) defaultExt = .ok p ∧
    place = placeOf current p

omit [Sub α] [OfInteger α] [Farthest α] in
theorem changes_interpretFrame
    (hexporter : d.interpreter.exporter = .workspace writes directory? defaultExt delay) :
    Changes (SavesTo d.operations defaultExt d.world.files.current) d.world.files
      d.interpretFrame.state.world.files := by
  unfold interpretFrame
  cases d.frame? with
  | none => exact .refl ..
  | some frame =>
    refine Interpreter.world_run (P := fun w : Workspace => Changes
      (SavesTo d.operations defaultExt d.world.files.current) d.world.files w.files)
      (s := d.stage frame) ?_ ?_ (.refl ..)
    · intro picture filename w hop hw
      have hsaved := changes_save writes w.files picture filename defaultExt
      rw [hw.current] at hsaved
      have hchanges := hw.trans (hsaved.mono fun place hplace => ⟨filename, hop, hplace⟩)
      rw [hexporter]
      simp only [Exporter.workspace]
      split <;> simp_all
    · intro picture w hw
      rw [hexporter]
      exact hw

/-! ### Frame after frame -/

/-- Pictures go to files, no operation saves to the file of a frame, and frames have plain
names. -/
structure Exports (d : Director α Workspace) (config : AnimationConfig)
    (writes : PathName → Bool) (directory? : Option PathName) (defaultExt : String)
    (delay : Int) : Prop where
  exporter : d.interpreter.exporter = .workspace writes directory? defaultExt delay
  ext : FrameName.PlainExtension d.ext
  outputDir : d.outputDir.Canonical
  animation : config.isAnimation = true
  saves : ∀ f : Nat, f < config.frameCount → ¬ SavesTo d.operations defaultExt
    d.world.files.current (placeOf d.world.files.current (d.framePath config f))

/-- The director has gone on from `d`, and the frames before `f` stand in their files. -/
structure Keeps (d : Director α Workspace) (config : AnimationConfig)
    (schedule : KnobSchedule α) (f : Nat) (d' : Director α Workspace) : Prop where
  fixed : d'.fixed = (d.operations, d.interpreter, d.settings, d.outputDir, d.ext, d.size,
    some config, some schedule)
  current : d'.world.files.current = d.world.files.current
  stored : ∀ g < f, ∃ picture, d.Draws g picture ∧
    d'.world.files.lookup? (d.framePath config g) = some (.file (.picture picture))

omit [Add α] [Sub α] [Mul α] [Div α] [Neg α] [NatCast α] [OfInteger α] [Circular α] in
theorem world_enterFrame (schedule : KnobSchedule α) (f : Nat) (d : Director α σ) :
    (d.enterFrame schedule f).state.world = d.world := by
  unfold enterFrame
  cases d.prepareFrame f with
  | error => rfl
  | ok frame => cases schedule.entriesAt f <;> rfl

omit [Sub α] [OfInteger α] in
theorem exists_frame {d : Director α σ} (h : (d.enterFrame schedule f).fault? = none) :
    ∃ frame, (d.enterFrame schedule f).state.interpretFrame.state.frame? = some frame := by
  unfold enterFrame at h ⊢
  cases hframe : d.prepareFrame f with
  | error => rw [hframe] at h; cases h
  | ok frame =>
    rw [hframe] at h
    cases hentries : schedule.entriesAt f with
    | error => rw [hentries] at h; cases h
    | ok entries => exact ⟨_, rfl⟩

theorem Keeps.exporter_eq (h : Keeps d config schedule f d')
    (hexports : Exports d config writes directory? defaultExt delay) :
    d'.interpreter.exporter = .workspace writes directory? defaultExt delay :=
  (congrArg (·.2.1.exporter) h.fixed).trans hexports.exporter

theorem Keeps.framePath_eq (h : Keeps d config schedule f d') (i : Int) :
    d'.framePath config i = d.framePath config i := framePath_of_fixed h.fixed config i

theorem Keeps.entered (h : Keeps d config schedule f d') (i : Nat) :
    Keeps d config schedule f (d'.enterFrame schedule i).state where
  fixed := (fixed_enterFrame ..).trans h.fixed
  current := by
    rw [world_enterFrame]
    exact h.current
  stored := by
    rw [world_enterFrame]
    exact h.stored

/-- The operations of a frame write what they save, and none of it is in the place of a frame. -/
theorem Keeps.interpreted (h : Keeps d config schedule f d')
    (hexports : Exports d config writes directory? defaultExt delay) (hf : f ≤ config.frameCount) :
    Keeps d config schedule f d'.interpretFrame.state := by
  have hoperations : d'.operations = d.operations := congrArg (·.1) h.fixed
  have hchanges := changes_interpretFrame (h.exporter_eq hexports)
  rw [hoperations, h.current] at hchanges
  refine ⟨(interpretFrame_state d').1.trans h.fixed, hchanges.current.trans h.current, ?_⟩
  intro g hg
  obtain ⟨picture, hdraws, hlookup⟩ := h.stored g hg
  refine ⟨picture, hdraws, hchanges.lookup_file ?_ hlookup⟩
  rw [h.current]
  exact hexports.saves g (by omega)

/-- A drawn frame is saved in its own place. -/
theorem Keeps.kept (h : Keeps d config schedule f d')
    (hexports : Exports d config writes directory? defaultExt delay) {frame : Frame α}
    (hframe : d'.frame? = some frame) (hdraws : d.Draws f frame.canvas.picture)
    (hok : (d'.keepFrame config f).fault? = none) :
    Keeps d config schedule (f + 1) (d'.keepFrame config f).state := by
  obtain ⟨htext, hresolve⟩ :=
    resolve_framePath hexports.ext hexports.outputDir config f defaultExt
  obtain ⟨hchanges, hown⟩ := stored_of_keepFrame (h.exporter_eq hexports) hexports.animation
    hframe (by rw [h.framePath_eq, htext, hresolve]) hok
  rw [h.framePath_eq] at hchanges hown
  rw [h.current] at hchanges
  refine ⟨(keepFrame_state config f d').1.trans h.fixed, hchanges.current.trans h.current, ?_⟩
  intro g hg
  rcases Nat.lt_succ_iff_lt_or_eq.1 hg with hbefore | rfl
  · obtain ⟨picture, hdrawn, hlookup⟩ := h.stored g hbefore
    refine ⟨picture, hdrawn, hchanges.lookup_file (fun heq => ?_) hlookup⟩
    rw [h.current] at heq
    exact hbefore.ne (placeOf_framePath_injective hexports.ext config _ heq)
  · exact ⟨_, hdraws, hown⟩

/-- **One more frame** leaves the frames before it in their files and adds its own. -/
theorem Keeps.produced (h : Keeps d config schedule f d')
    (hexports : Exports d config writes directory? defaultExt delay) (hf : f < config.frameCount)
    (hentering : d.entering f = d'.enterFrame schedule f)
    (hok : (produceFrame config f d').fault? = none) :
    Keeps d config schedule (f + 1) (produceFrame config f d').state := by
  have hschedule : d'.schedule? = some schedule := congrArg (·.2.2.2.2.2.2.2) h.fixed
  rw [produceFrame_eq hschedule] at hok ⊢
  obtain ⟨hdrawn, hkept⟩ := Outcome.andThen_fault_none hok
  obtain ⟨hentered, -⟩ := Outcome.andThen_fault_none hdrawn
  obtain ⟨frame, hframe⟩ := exists_frame hentered
  have hdraws : d.Draws f frame.canvas.picture := by
    rw [Draws, hentering]
    refine ⟨hdrawn, frame, ?_, rfl⟩
    rw [Outcome.andThen_of_none hentered]
    exact hframe
  rw [Outcome.andThen_of_none hdrawn]
  rw [Outcome.andThen_of_none hentered] at hkept ⊢
  exact ((h.entered f).interpreted hexports (by omega)).kept hexports hframe hdraws hkept

/-- **While frames are produced**, all of them stand in their files. -/
theorem Exports.keeps (hexports : Exports d config writes directory? defaultExt delay)
    (hcompile : d.compile.fault? = none) (hprepared : d.Prepared config schedule)
    (hf : f ≤ config.frameCount.toNat)
    (hok : (Outcome.sequence (produceFrame config) (List.range f) d.compile.state).fault? = none) :
    Keeps d config schedule f
      (Outcome.sequence (produceFrame config) (List.range f) d.compile.state).state := by
  have hconfig : d.compile.state.config? = some config := by rw [hprepared]
  have hschedule : d.compile.state.schedule? = some schedule := by rw [hprepared]
  induction f with
  | zero =>
    refine ⟨by rw [hprepared]; rfl, by rw [hprepared]; rfl, fun g hg => ?_⟩
    exact absurd hg (Nat.not_lt_zero g)
  | succ f ih =>
    rw [List.range_succ, Outcome.sequence_append] at hok ⊢
    obtain ⟨hbefore, hlast⟩ := Outcome.andThen_fault_none hok
    rw [Outcome.sequence_singleton] at hlast
    rw [Outcome.andThen_of_none hbefore, Outcome.sequence_singleton]
    refine (ih (by omega) hbefore).produced hexports (by omega) ?_ hlast
    rw [entering_eq hcompile hconfig hschedule, Outcome.andThen_of_none hbefore]

theorem Keeps.exists_pictures (h : Keeps d config schedule config.frameCount.toNat d') :
    ∃ pictures, List.Forall₂ (fun (f : Nat) picture => f < config.frameCount ∧ d.Draws f picture ∧
        d'.world.files.lookup? (d.framePath config f) = some (.file (.picture picture)))
      (List.range config.frameCount.toNat) pictures := by
  refine exists_forall₂ fun f hf => ?_
  have hlt := List.mem_range.1 hf
  obtain ⟨picture, hdraws, hlookup⟩ := h.stored f hlt
  exact ⟨picture, by omega, hdraws, hlookup⟩

/-! ### The whole run -/

theorem run_eq_producing {d : Director α σ} (hcompile : d.compile.fault? = none)
    (hconfig : d.compile.state.config? = some config) :
    d.producing = Outcome.sequence (produceFrame config) (List.range config.frameCount.toNat)
        d.compile.state ∧
      d.run = d.producing.andThen (finish config) := by
  have hproducing : d.producing = Outcome.sequence (produceFrame config)
      (List.range config.frameCount.toNat) d.compile.state := by
    rw [producing, Outcome.andThen_of_none hcompile, hconfig]
  exact ⟨hproducing, by rw [run_eq_produce hcompile hconfig, hproducing]⟩

/-- **An animation is made of the frames of its run.**  When the frames are put together they have
different names and different places, every name is the one that its frame was saved under, each
file holds the final picture of its own frame, and these pictures, in the order of the frames, are
what is read, whatever files there were before.  No operation may have saved to the place of a
frame. -/
theorem assembled_from_frames (d : Director α Workspace) (config : AnimationConfig)
    (writes : PathName → Bool) (directory? : Option PathName) (defaultExt : String) (delay : Int)
    (output : String)
    (hexporter : d.interpreter.exporter = .workspace writes directory? defaultExt delay)
    (houtput : d.outputDir = .ofString output) (hext : FrameName.PlainExtension d.ext)
    (hdone : d.producing.fault? = none) (hconfig : d.producing.state.config? = some config)
    (hmany : 1 < config.frameCount)
    (hsaves : ∀ filename, .save filename ∈ d.operations →
      ∀ p, resolve (.ofString filename) defaultExt = .ok p →
      ∀ f : Nat, f < config.frameCount → placeOf d.world.files.current p ≠
        placeOf d.world.files.current (d.framePath config f)) :
    let d' := d.producing.state
    let files := d'.world.files
    let paths := (List.range config.frameCount.toNat).map fun (f : Nat) => d.framePath config f
    d.run = d'.assemble config ∧ d'.framePaths config = paths.map PathName.text ∧
    (paths.map PathName.text).Nodup ∧ (paths.map (placeOf files.current)).Nodup ∧
    (∀ p ∈ paths, .ofString p.text = p ∧ resolve p defaultExt = .ok p ∧
      ∀ t picture q, (save writes t picture p.text defaultExt).2 = .ok q → q = p) ∧
    ∃ pictures, List.Forall₂ (fun (f : Nat) picture =>
        d.run = ((d.entering f).andThen interpretFrame).andThen (continuing config f) ∧
        d.Draws f picture ∧ files.isFile (d.framePath config f) = true ∧
        files.read (d.framePath config f) = .ok (.picture picture))
      (List.range config.frameCount.toNat) pictures ∧
    AnimationFile.readFrames files ((d'.framePaths config).map .ofString) = .ok pictures ∧
    AnimationFile.assemble files config.basename ((d'.framePaths config).map .ofString)
        directory? delay =
      if AnimationFile.equalSizes pictures then
        let path := directory?.getD (d.framePath config 0).parent / (config.basename ++ ".gif")
        (files.write path (.animation (.ofPictures pictures delay))).map fun t => (t, path)
      else .error .unequalPictures := by
  intro d' files paths
  have hcompile : d.compile.fault? = none := (Outcome.andThen_fault_none hdone).1
  obtain ⟨config', schedule, -, -, -, hprepared, hconfig', -⟩ := exists_prepared hcompile
  have hschedule : d.compile.state.schedule? = some schedule := by rw [hprepared]
  obtain ⟨hproducing, hrun⟩ := run_eq_producing hcompile hconfig'
  rw [hproducing] at hdone
  have hfixed := (symbols_sequence hschedule hdone).1
  obtain rfl : config' = config := by
    rw [hproducing, config_of_fixed hfixed, hconfig'] at hconfig
    exact Option.some.inj hconfig
  have hexports : Exports d config' writes directory? defaultExt delay := by
    refine ⟨hexporter, hext, houtput ▸ PathName.canonical_ofString output, decide_eq_true hmany, ?_⟩
    rintro f hf ⟨filename, hop, p, hresolve, hplace⟩
    exact hsaves filename hop p hresolve f hf hplace.symm
  have hkeeps : Keeps d config' schedule config'.frameCount.toNat d' := by
    have := hexports.keeps hcompile hprepared (Nat.le_refl _) hdone
    rwa [← hproducing] at this
  have hname (f : Nat) := resolve_framePath hexports.ext hexports.outputDir config' f defaultExt
  have htexts : d'.framePaths config' = paths.map PathName.text := by
    simp only [framePaths, hexports.animation, ↓reduceIte, hkeeps.framePath_eq, paths,
      List.map_map]
    rfl
  have hread : (d'.framePaths config').map .ofString = paths := by
    simp only [htexts, paths, List.map_map]
    exact List.map_congr_left fun f _ => (hname f).1
  refine ⟨?_, htexts, ?_, ?_, ?_, ?_⟩
  · rw [hrun, Outcome.andThen_of_none (hproducing ▸ hdone), finish, hexports.animation]
    rfl
  · rw [List.map_map]
    exact List.Nodup.map (text_framePath_injective hext hexports.outputDir config') List.nodup_range
  · rw [List.map_map]
    exact List.Nodup.map (placeOf_framePath_injective hext config' files.current) List.nodup_range
  · intro p hp
    obtain ⟨f, -, rfl⟩ := List.mem_map.1 hp
    refine ⟨(hname f).1, (hname f).2, fun t picture q hq => ?_⟩
    have hresolve := (lookup_save hq).1
    rw [(hname f).1, (hname f).2] at hresolve
    exact (Except.ok.inj hresolve).symm
  · obtain ⟨pictures, hpictures⟩ := hkeeps.exists_pictures
    have hpaths : List.Forall₂ (fun p picture =>
        files.lookup? p = some (.file (.picture picture))) paths pictures := by
      rw [List.forall₂_map_left_iff]
      exact hpictures.imp fun f picture h => h.2.2
    refine ⟨pictures, hpictures.imp ?_, ?_, ?_⟩
    · rintro f picture ⟨hf, hdraws, hlookup⟩
      exact ⟨run_eq_entering hcompile hconfig' hschedule hf, hdraws, isFile_of_lookup hlookup,
        read_of_lookup hlookup⟩
    · rw [hread]
      exact AnimationFile.readFrames_eq hpaths
    · have hne : paths ≠ [] := by
        simp only [paths, Ne, List.map_eq_nil_iff, List.range_eq_nil]
        omega
      have hfirst : paths.head hne = d.framePath config' 0 := by
        simp only [paths, List.head_map, List.head_range]
        rfl
      rw [hread, AnimationFile.assemble_eq hpaths hne, hfirst]

/-- Two frames under a name with dots, slashes and a last digit.  Files with the same name and with
a similar one are there already, and a picture is saved under another name. -/
theorem assembled_from_frames_overwritten :
    let stale : FileEntry := .file (.bytes ByteArray.empty)
    let d : Director Float Workspace := {
      operations := [.frames 2, .basename "v1.9/turn0", .vary ⟨"lift", 0, 1, 0, 2⟩,
        .move ⟨1, 0, 0⟩ (some "lift"), .line ⟨0, 0, 0⟩ ⟨0, 1, 0⟩ none none none, .save "still"]
      symbols := .empty
      interpreter :=
        ⟨.wireframe, .workspace hasFormat none "png" 100, .default, 3, fun _ => true⟩
      settings := .ofEnvironment fun _ => none
      outputDir := .ofString "out"
      ext := "ppm"
      size := 2
      world := { files := ⟨["home"], .ofList [(["home"], .directory),
        (["home", "out"], .directory), (["home", "out", "v1.9"], .directory),
        (["home", "out", "v1.9", "turn0000.ppm"], stale),
        (["home", "out", "v1.9", "turn00000.ppm"], stale)]⟩ } }
    let files := d.producing.state.world.files
    d.producing.fault? = none ∧ ∃ first second,
      d.Draws 0 first ∧ d.Draws 1 second ∧
      AnimationFile.readFrames files
        [.ofString "out/v1.9/turn0000.ppm", .ofString "out/v1.9/turn0001.ppm"] =
        .ok [first, second] := by
  intro stale d files
  let config : AnimationConfig := ⟨2, "v1.9/turn0", true⟩
  obtain ⟨hdone, hconfig, hpaths⟩ : d.producing.fault?.isNone = true ∧
      d.producing.state.config? = some config ∧ d.producing.state.framePaths config =
        ["out/v1.9/turn0000.ppm", "out/v1.9/turn0001.ppm"] := by decide +kernel
  replace hdone : d.producing.fault? = none := Option.isNone_iff_eq_none.1 hdone
  have hplaces : ∀ f < 2, placeOf ["home"] ⟨"", ["still.png"]⟩ ≠
      placeOf ["home"] (d.framePath config (f : Nat)) := by decide +kernel
  have hsaves : ∀ filename, .save filename ∈ d.operations →
      ∀ p, resolve (.ofString filename) "png" = .ok p → ∀ f : Nat, f < config.frameCount →
      placeOf ["home"] p ≠ placeOf ["home"] (d.framePath config f) := by
    intro filename hop p hresolve f hf
    -- the one picture that is saved gets the default extension
    obtain rfl : filename = "still" := by simpa [d] using hop
    obtain rfl : ⟨"", ["still.png"]⟩ = p := Except.ok.inj hresolve
    have hlt : (f : Int) < 2 := hf
    exact hplaces f (by omega)
  obtain ⟨-, -, -, -, -, pictures, hpictures, hread, -⟩ := assembled_from_frames d config
    hasFormat none "png" 100 "out" rfl rfl ⟨by decide, by decide, by decide⟩ hdone hconfig
    (by decide) hsaves
  rw [hpaths] at hread
  obtain ⟨first, hfirst, second, hsecond, rfl⟩ : ∃ first, d.Draws 0 first ∧
      ∃ second, d.Draws 1 second ∧ pictures = [first, second] := by
    cases hpictures with
    | cons h0 h =>
      cases h with
      | cons h1 h =>
        cases h
        exact ⟨_, h0.2.1, _, h1.2.1, rfl⟩
  exact ⟨hdone, first, second, hfirst, hsecond, hread⟩

end Director

end Flipbook
