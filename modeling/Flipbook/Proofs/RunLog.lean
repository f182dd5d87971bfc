import Flipbook.Proofs.FrameByFrame
import Flipbook.Proofs.Performance
import Flipbook.Rendering

/-!
# What a run does, written down

Every frame of a run is a performance: the first on a blank canvas, every other on the cleared
canvas of the one before it and in the world that it has left (`Director.performance`).  This
module writes down what happens in a run, as if nothing ever stopped:

* `Director.frameLog` : in a frame, everything that its performance tells, then the saving of its
  final picture and a line of progress;
* `Director.logBefore` : in all frames before a frame;
* `Director.finale` : after the last frame.

The world of the exporter is a function of this log (`Interpreter.worldAfter`), and what the
exporter is asked for in a frame is what its operations ask for and then the saving of its final
picture (`Director.filter_frameLog`).
-/

namespace Flipbook

/-- The exporter is asked for something. -/
def Event.isExport {α : Type} : Event α → Bool
  | save .. | display _ | assemble .. => true
  | _ => false

theorem flatMap_range_prefix {β : Type} (g : Nat → List β) {m n : Nat} (h : m ≤ n) :
    (List.range m).flatMap g <+: (List.range n).flatMap g := by
  obtain ⟨k, rfl⟩ := Nat.exists_eq_add_of_le h
  rw [List.range_add, List.flatMap_append]
  exact List.prefix_append ..

namespace Interpreter

variable {α σ : Type} (I : Interpreter α σ)

/-- What the exporter makes of a world when everything in a log is handed to it. -/
def worldAfter (log : List (Event α)) (w : σ) : σ :=
  log.foldl (fun w e => (I.handOver e w).world) w

@[simp] theorem worldAfter_nil (w : σ) : I.worldAfter [] w = w := rfl

@[simp] theorem worldAfter_cons (e : Event α) (log : List (Event α)) (w : σ) :
    I.worldAfter (e :: log) w = I.worldAfter log (I.handOver e w).world := rfl

@[simp] theorem worldAfter_append (log log' : List (Event α)) (w : σ) :
    I.worldAfter (log ++ log') w = I.worldAfter log' (I.worldAfter log w) :=
  List.foldl_append

@[simp] theorem handOver_step (index : Int) (op : Operation α) (w : σ) :
    I.handOver (.step index op) w = { world := w } := rfl

@[simp] theorem worldAfter_notices (ns : List Notice) (w : σ) :
    I.worldAfter (ns.map .notice) w = w := by
  induction ns with
  | nil => rfl
  | cons n ns ih => exact ih

end Interpreter

namespace Performance

open Interpreter

variable {α σ : Type} [Zero α] [One α] [Add α] [Mul α] [Neg α] [Div α] [NatCast α] [Circular α]
variable (p : Performance α σ)

/-- The canvas after the last operation. -/
def canvasAfter : Canvas α := p.canvasBefore p.operations.length

/-- The world after the last operation. -/
def worldAfter : σ := p.worldBefore p.operations.length

/-- Everything that happens. -/
def told : List (Event α) := p.toldBefore p.operations.length

/-- What the operation at a position asks of the exporter. -/
def exportAt (k : Nat) : Option (Event α) :=
  match p.operations[k]? with
  | some (.save filename) => some (.save (p.canvasBefore k).picture filename)
  | some .display => some (.display (p.canvasBefore k).picture)
  | _ => none

/-- What the operations before `k` ask of the exporter, in order. -/
def exportsBefore (k : Nat) : List (Event α) := (List.range k).filterMap p.exportAt

theorem filter_callAt (k : Nat) : (p.callAt k).toList.filter Event.isExport =
    (p.exportAt k).toList := by
  cases hop : p.operations[k]? with
  | none => simp [callAt, drawAt, exportAt, hop]
  | some op =>
    cases op with
    | save | display => simp [callAt, exportAt, hop, Event.isExport]
    | box | sphere | torus | line =>
      simp only [callAt, exportAt, hop, Option.toList_none]
      cases hdraw : p.drawAt k with
      | none => rfl
      | some e =>
        rw [drawAt_eq hop] at hdraw
        rcases drawing_cases (eq_ok_of_bind_toOption hdraw) with ⟨_, _, rfl⟩ | ⟨_, rfl⟩ <;> rfl
    | _ => simp [callAt, drawAt, drawing?, exportAt, hop]

theorem filter_exports (k : Nat) :
    (p.toldBefore k).filter Event.isExport = p.exportsBefore k := by
  -- what the exporter is asked for is no message, so the messages can go first
  have hsub : (p.toldBefore k).filter Event.isExport =
      ((p.toldBefore k).filter (fun e => !e.isMessage)).filter Event.isExport := by
    rw [List.filter_filter]
    congr 1
    funext e
    cases e <;> rfl
  rw [hsub, filter_toldBefore]
  clear hsub
  induction k with
  | zero => rfl
  | succ k ih =>
    rw [callsBefore_succ, List.filter_append, ih, filter_callAt]
    simp only [exportsBefore, List.range_succ, List.filterMap_append]
    cases h : p.exportAt k <;> simp [h]

theorem worldAfter_toldBefore (k : Nat) :
    p.interpreter.worldAfter (p.toldBefore k) p.world = p.worldBefore k := by
  induction k with
  | zero => rfl
  | succ k ih =>
    rw [toldBefore_succ, Interpreter.worldAfter_append, ih, worldBefore_succ]
    cases hop : p.operations[k]? with
    | none => simp [toldAt, callAt, drawAt, hop]
    | some op =>
      -- of what is told at `k`, the call alone reaches the exporter
      simp only [toldAt, hop, worldAfter_cons, Interpreter.worldAfter_append, handOver_step]
      unfold answersAt
      cases p.callAt k with
      | none => rfl
      | some e =>
        simp only [Option.toList_some, List.flatMap_cons, List.flatMap_nil, List.append_nil,
          worldAfter_notices, worldAfter_cons, worldAfter_nil]

end Performance

namespace Director

open Interpreter Performance

theorem filter_notices {α : Type} (ns : List Notice) :
    (ns.map (.notice : Notice → Event α)).filter Event.isExport = [] := by
  simp [List.filter_eq_nil_iff, Event.isExport]

variable {α σ : Type} [Zero α] [One α] [Add α] [Mul α] [Div α] [Neg α] [NatCast α]
variable [Circular α] [Farthest α]
variable (d : Director α σ) (config : AnimationConfig) (schedule : KnobSchedule α)

/-- The knobs and materials while frame `f` is drawn. -/
def tableAt (f : Nat) : SymbolTable α :=
  schedule.tableAfter (d.symbols.declareKnobs d.operations).1 (f + 1)

/-- The operations carried out for frame `f` on a canvas and in a world. -/
def playing (f : Nat) (canvas : Canvas α) (world : σ) : Performance α σ :=
  ⟨d.interpreter, d.tableAt schedule f, d.operations, f, canvas, world⟩

/-- What the exporter makes of the final picture of frame `f`. -/
def keeping (f : Nat) (p : Performance α σ) : Report σ :=
  if config.isAnimation then
    d.interpreter.exporter.save p.canvasAfter.picture (d.framePath config f).text p.worldAfter
  else { world := p.worldAfter }

/-- What is carried out for frame `f`. -/
def performance : Nat → Performance α σ
  | 0 => d.playing schedule 0 (.blank d.size.toNat) d.world
  | f + 1 => d.playing schedule (f + 1) (performance f).canvasAfter.clear
      (d.keeping config f (performance f)).world

/-- How the exporter saves the final picture of frame `f`. -/
def keepingAt (f : Nat) : Report σ := d.keeping config f (d.performance config schedule f)

/-- The saving of the final picture of frame `f`. -/
def keptCalls (f : Nat) : List (Event α) :=
  if config.isAnimation then
    [.save (d.performance config schedule f).canvasAfter.picture (d.framePath config f).text]
  else []

/-- A line of progress for every so many saved frames. -/
def progress (f : Nat) : List Notice :=
  if config.isAnimation ∧ f % d.settings.progressEvery = 0 then [.savingFrame f] else []

/-- What happens in frame `f` up to the answer of the exporter to its final picture. -/
def savedLog (f : Nat) : List (Event α) :=
  (d.performance config schedule f).told ++
    (d.keptCalls config schedule f ++ (d.keepingAt config schedule f).notices.map .notice)

/-- Everything that happens in frame `f`. -/
def frameLog (f : Nat) : List (Event α) :=
  d.savedLog config schedule f ++ (d.progress config f).map .notice

/-- Everything that happens in the frames before frame `f`. -/
def logBefore (f : Nat) : List (Event α) :=
  (List.range f).flatMap (d.frameLog config schedule)

/-- How the exporter puts the frames together. -/
def assembling : Report σ :=
  let world := (d.performance config schedule config.frameCount.toNat).world
  if config.isAnimation then
    d.interpreter.exporter.assemble config.basename (d.framePaths config) world
  else { world }

/-- What happens after the last frame. -/
def finale : List (Event α) :=
  if config.isAnimation then
    .notice .assembling :: .assemble config.basename (d.framePaths config) ::
      (d.assembling config schedule).notices.map .notice
  else []

@[simp] theorem logBefore_zero : d.logBefore config schedule 0 = [] := rfl

theorem logBefore_succ (f : Nat) : d.logBefore config schedule (f + 1) =
    d.logBefore config schedule f ++ d.frameLog config schedule f := by
  simp [logBefore, List.range_succ]

@[simp] theorem performance_interpreter (f : Nat) :
    (d.performance config schedule f).interpreter = d.interpreter := by
  cases f <;> rfl

@[simp] theorem performance_operations (f : Nat) :
    (d.performance config schedule f).operations = d.operations := by
  cases f <;> rfl

@[simp] theorem performance_symbols (f : Nat) :
    (d.performance config schedule f).symbols = d.tableAt schedule f := by
  cases f <;> rfl

@[simp] theorem performance_index (f : Nat) : (d.performance config schedule f).index = f := by
  cases f <;> rfl

/-- What the exporter is asked for in a frame: what its operations ask for, and in an animation
the saving of its final picture. -/
theorem filter_frameLog (f : Nat) : (d.frameLog config schedule f).filter Event.isExport =
    (d.performance config schedule f).exportsBefore d.operations.length ++
      d.keptCalls config schedule f := by
  have kept : (d.keptCalls config schedule f).filter Event.isExport =
      d.keptCalls config schedule f := by
    unfold keptCalls
    split <;> rfl
  simp only [frameLog, savedLog, told, List.filter_append, filter_exports, filter_notices, kept,
    List.append_nil, performance_operations]

theorem assemble_notMem_logBefore (f : Nat) (basename : String) (frames : List String) :
    .assemble basename frames ∉ d.logBefore config schedule f := by
  intro hmem
  obtain ⟨g, -, hmem⟩ := List.mem_flatMap.1 hmem
  have hexport : .assemble basename frames ∈
      (d.frameLog config schedule g).filter Event.isExport := List.mem_filter.2 ⟨hmem, rfl⟩
  rw [filter_frameLog, List.mem_append] at hexport
  rcases hexport with hmem | hmem
  · obtain ⟨i, -, hi⟩ := List.mem_filterMap.1 hmem
    unfold exportAt at hi
    split at hi <;> cases hi
  · unfold keptCalls at hmem
    split at hmem <;> simp at hmem

theorem filter_finale : (d.finale config schedule).filter Event.isExport =
    if config.isAnimation then [.assemble config.basename (d.framePaths config)] else [] := by
  unfold finale
  split
  · rw [List.filter_cons_of_neg (by simp [Event.isExport]),
      List.filter_cons_of_pos (by simp [Event.isExport]), filter_notices]
  · rfl

theorem worldAfter_savedLog (f : Nat) :
    d.interpreter.worldAfter (d.savedLog config schedule f)
        (d.performance config schedule f).world =
      (d.keepingAt config schedule f).world := by
  have hworld := (d.performance config schedule f).worldAfter_toldBefore d.operations.length
  rw [performance_interpreter] at hworld
  simp only [savedLog, told, Interpreter.worldAfter_append, worldAfter_notices,
    performance_operations, hworld]
  unfold keptCalls keepingAt keeping
  split
  · simp only [worldAfter_cons, worldAfter_nil, handOver, Performance.worldAfter,
      performance_operations]
  · simp only [worldAfter_nil, Performance.worldAfter, performance_operations]

/-- The world before a frame is that of the log of all frames before it. -/
theorem worldAfter_logBefore (f : Nat) :
    d.interpreter.worldAfter (d.logBefore config schedule f) d.world =
      (d.performance config schedule f).world := by
  induction f with
  | zero => rfl
  | succ f ih =>
    rw [logBefore_succ, Interpreter.worldAfter_append, ih, frameLog,
      Interpreter.worldAfter_append, worldAfter_savedLog, worldAfter_notices]
    rfl

end Director

end Flipbook
