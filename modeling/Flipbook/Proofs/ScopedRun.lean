import Flipbook.Proofs.Interpretation

/-!
# Runs of scoped operations

With all names defined and with a rasterizer and an exporter that come to their ends, brackets are
all that can go wrong in a run.  `Performance.run_scoped` says what happens then: a run fails
exactly when more systems are left than were entered, at the first such exit; up to there its
stack, its canvas and its calls are those that the brackets of the sequence name.
-/

namespace Flipbook

namespace Operation

/-- The knob that multiplies the numbers of a transformation. -/
def factor? {α : Type} : Operation α → Option String
  | move _ knob | scale _ knob | rotate _ _ knob => knob
  | _ => none

/-- The operation composes the current coordinate system with a further one. -/
def transforms {α : Type} : Operation α → Bool
  | move .. | scale .. | rotate .. => true
  | _ => false

/-- The operation asks something of the rasterizer or of the exporter. -/
def calls {α : Type} : Operation α → Bool
  | box .. | sphere .. | torus .. | line .. | save _ | display => true
  | _ => false

/-- The material that a solid is drawn in. -/
def material? {α : Type} : Operation α → Option String
  | box _ _ constants _ | sphere _ _ constants _ | torus _ _ _ constants _ => constants
  | _ => none

theorem knob?_of_factor? {α : Type} (op : Operation α) {name : String}
    (h : op.factor? = some name) : op.knob? = some name := by
  cases op <;> first | exact h | cases h

end Operation

/-- All knobs and materials that the operations use have values. -/
def SymbolTable.Defines {α : Type} (t : SymbolTable α) (ops : List (Operation α)) : Prop :=
  ∀ op ∈ ops, op.factor?.all (fun name => (t.knob? name).isSome) = true ∧
    op.material?.all (fun name => (t.constants? name).isSome) = true

/-- All knobs of the transformations have values. -/
def SymbolTable.HasKnobs {α : Type} (t : SymbolTable α) (ops : List (Operation α)) : Prop :=
  ∀ op ∈ ops, ∀ name, op.factor? = some name → (t.knob? name).isSome

/-- The rasterizer draws everything to its end. -/
structure Rasterizer.Reliable {α : Type} (r : Rasterizer α) : Prop where
  drawSolid : ∀ scene points constants canvas,
    (r.drawSolid scene points constants canvas).fault? = none
  drawLine : ∀ scene points canvas, (r.drawLine scene points canvas).fault? = none

/-- The exporter takes every picture. -/
structure Exporter.Reliable {σ : Type} (e : Exporter σ) : Prop where
  save : ∀ picture filename w, (e.save picture filename w).fault? = none
  display : ∀ picture w, (e.display picture w).fault? = none

theorem Rasterizer.reliable_silent {α : Type} : (silent : Rasterizer α).Reliable :=
  ⟨fun _ _ _ _ => rfl, fun _ _ _ => rfl⟩

theorem Exporter.reliable_silent {σ : Type} : (silent : Exporter σ).Reliable :=
  ⟨fun _ _ _ => rfl, fun _ _ => rfl⟩

namespace Nesting

variable {α : Type} {ops : List (Operation α)}

/-- A sequence that leaves too much has a first exit that does. -/
theorem exists_first_unsound {n : Nat} (h : ¬ SoundBefore ops n) :
    ∃ k < n, SoundBefore ops k ∧ ¬ SoundBefore ops (k + 1) := by
  induction n with
  | zero => exact absurd soundBefore_zero h
  | succ n ih =>
    by_cases hn : SoundBefore ops n
    · exact ⟨n, by omega, hn, h⟩
    · obtain ⟨k, hk, h1, h2⟩ := ih hn
      exact ⟨k, by omega, h1, h2⟩

theorem pop_of_first_unsound {k : Nat} (hs : SoundBefore ops k) (hu : ¬ SoundBefore ops (k + 1)) :
    ops[k]? = some .pop ∧ pushes (ops.take k) ≤ pops (ops.take k) := by
  have hopen := soundBefore_iff.1 hs k le_rfl
  have hlt : level ops (k + 1) < 0 := by
    by_contra hge
    exact hu (soundBefore_succ_iff.2 ⟨hs, by omega⟩)
  have hpop : ops[k]? = some .pop := pop_of_lt_level (by omega)
  refine ⟨hpop, ?_⟩
  rw [level_succ_of_pop hpop] at hlt
  unfold level at hlt
  omega

end Nesting

namespace Performance

open Nesting Interpreter

variable {α σ : Type} {p : Performance α σ} {k : Nat} {op : Operation α}

/-! ### What names stand for -/

theorem factor_of_defined [One α] {t : SymbolTable α} {name : Option String}
    (h : name.all (fun name => (t.knob? name).isSome) = true) :
    ∃ x, factor t name = .ok x := by
  cases name with
  | none => exact ⟨1, rfl⟩
  | some name =>
    obtain ⟨x, hx⟩ := Option.isSome_iff_exists.1 h
    exact ⟨x, by simp only [factor, hx]⟩

theorem material_of_defined {I : Interpreter α σ} {t : SymbolTable α} {name : Option String}
    (h : name.all (fun name => (t.constants? name).isSome) = true) :
    ∃ c, I.material t name = .ok c := by
  cases name with
  | none => exact ⟨_, rfl⟩
  | some name =>
    obtain ⟨c, hc⟩ := Option.isSome_iff_exists.1 h
    exact ⟨c, by simp only [material, hc]⟩

theorem factor_of_hasKnobs [One α] {t : SymbolTable α} {ops : List (Operation α)}
    (h : t.HasKnobs ops) (hop : op ∈ ops) : ∃ x, factor t op.factor? = .ok x := by
  refine factor_of_defined ?_
  cases hname : op.factor? with
  | none => rfl
  | some name => exact h op hop name hname

theorem material_fails (I : Interpreter α σ) (t : SymbolTable α) (name : Option String) :
    OnlyFails (fun f => ∃ n, name = some n ∧ t.constants? n = none ∧
      f = .unknownSymbol .constants n) (I.material t name) := by
  cases name with
  | none => exact .ok _
  | some n =>
    unfold Interpreter.material
    dsimp only
    cases hn : t.constants? n with
    | some c => exact .ok c
    | none => exact .error ⟨n, rfl, hn, rfl⟩

/-! ### Nothing but brackets goes wrong -/

variable [Zero α] [One α] [Add α] [Mul α] [Neg α] [Div α] [NatCast α] [Circular α]

omit [Add α] [Div α] [NatCast α] in
theorem matrix_of_defined (hdef : p.symbols.Defines p.operations) (hop : op ∈ p.operations) :
    if op.transforms then ∃ m, p.matrix? op = some (.ok m) else p.matrix? op = none := by
  obtain ⟨hfactor, -⟩ := hdef op hop
  cases op with
  | move _ knob | scale _ knob | rotate _ _ knob =>
    obtain ⟨x, hx⟩ : ∃ x, factor p.symbols knob = .ok x := factor_of_defined hfactor
    exact ⟨_, by rw [matrix?, hx]; rfl⟩
  | _ => rfl

theorem drawing_of_defined (hdef : p.symbols.Defines p.operations)
    (hsteps : 3 ≤ p.interpreter.steps) (hop : op ∈ p.operations) (top : Matrix4 α) :
    p.drawing? top op = none ∨ ∃ e, p.drawing? top op = some (.ok e) := by
  obtain ⟨-, hmaterial⟩ := hdef op hop
  have hchecked : Mesh.checkedSteps p.interpreter.steps = .ok p.interpreter.steps.toNat :=
    if_neg (by omega)
  cases op with
  | box _ _ name | sphere _ _ name | torus _ _ _ name =>
    obtain ⟨c, hc⟩ : ∃ c, p.interpreter.material p.symbols name = .ok c :=
      material_of_defined hmaterial
    simp only [drawing?, hc, hchecked]
    exact .inr ⟨_, rfl⟩
  | line => exact .inr ⟨_, rfl⟩
  | _ => exact .inl rfl

theorem refusalAt_of_no_error (hop : p.operations[k]? = some op) (hpop : op.isPop = false)
    (hmatrix : ∀ f, p.matrix? op ≠ some (.error f))
    (hdrawing : ∀ f, p.drawing? (p.topBefore k) op ≠ some (.error f)) : p.refusalAt k = none := by
  unfold refusalAt
  rw [hop]
  split
  · rfl
  · rename_i h
    cases h
    cases hpop
  · rename_i h
    obtain rfl := Option.some.inj h
    split
    · rename_i f h
      exact absurd h (hmatrix f)
    · rename_i f h _
      exact absurd h (hdrawing f)
    · rfl

/-- An operation that is defined is refused only as an exit from the outermost system. -/
theorem refusalAt_of_defined (hdef : p.symbols.Defines p.operations)
    (hsteps : 3 ≤ p.interpreter.steps) (hop : p.operations[k]? = some op)
    (hpop : op.isPop = false) : p.refusalAt k = none := by
  have hmem := List.mem_of_getElem? hop
  refine refusalAt_of_no_error hop hpop (fun f h => ?_) fun f h => ?_
  · have hmatrix := matrix_of_defined hdef hmem
    split at hmatrix
    · obtain ⟨m, hm⟩ := hmatrix
      rw [hm] at h
      cases h
    · rw [hmatrix] at h
      cases h
  · rcases drawing_of_defined hdef hsteps hmem (p.topBefore k) with hd | ⟨e, hd⟩
    · rw [hd] at h
      cases h
    · rw [hd] at h
      cases h

theorem faultAt_of_reliable (hr : p.interpreter.rasterizer.Reliable)
    (he : p.interpreter.exporter.Reliable) (k : Nat) : p.faultAt k = p.refusalAt k := by
  cases hcall : p.callAt k with
  | none => exact faultAt_of_quiet hcall
  | some e =>
    have hends : (p.interpreter.draw e (p.canvasBefore k)).fault? = none ∧
        (p.interpreter.handOver e (p.worldBefore k)).fault? = none := by
      rcases call_cases hcall with ⟨_, _, rfl⟩ | ⟨_, rfl⟩ | ⟨_, _, rfl⟩ | ⟨_, rfl⟩
      · exact ⟨hr.drawSolid .., rfl⟩
      · exact ⟨hr.drawLine .., rfl⟩
      · exact ⟨rfl, he.save ..⟩
      · exact ⟨rfl, he.display ..⟩
    rw [faultAt_of_call hcall, hends.1, hends.2, refusalAt_of_call hcall]
    rfl

theorem isSome_of_defined (hdef : p.symbols.Defines p.operations)
    (hsteps : 3 ≤ p.interpreter.steps) (hop : p.operations[k]? = some op) :
    (p.matrixAt k).isSome = op.transforms ∧ (p.callAt k).isSome = op.calls := by
  have hmem := List.mem_of_getElem? hop
  have hmatrix := matrix_of_defined hdef hmem
  have hdrawing := drawing_of_defined hdef hsteps hmem (p.topBefore k)
  constructor
  · rw [matrixAt_eq hop]
    split at hmatrix
    · rename_i htransforms
      obtain ⟨m, hm⟩ := hmatrix
      rw [hm, htransforms]
      rfl
    · rename_i htransforms
      rw [hmatrix, Bool.eq_false_of_not_eq_true htransforms]
      rfl
  · simp only [callAt, hop, drawAt_eq hop]
    cases op with
    | box | sphere | torus | line =>
      rcases hdrawing with hd | ⟨e, hd⟩
      · cases hd
      · simp only [hd]
        rfl
    | _ => rfl

/-- **Up to the first exit that leaves too much nothing stops.** -/
theorem faultAt_of_sound (hdef : p.symbols.Defines p.operations)
    (hsteps : 3 ≤ p.interpreter.steps) (hr : p.interpreter.rasterizer.Reliable)
    (he : p.interpreter.exporter.Reliable) (hs : SoundBefore p.operations k) {i : Nat}
    (hi : i < k) : p.faultAt i = none := by
  rw [faultAt_of_reliable hr he]
  cases hop : p.operations[i]? with
  | none => simp [refusalAt, hop]
  | some op =>
    cases hpop : op.isPop with
    | false => exact refusalAt_of_defined hdef hsteps hop hpop
    | true =>
      obtain rfl := Operation.isPop_iff.1 hpop
      have hlevel := level_succ_of_pop hop
      have hopen := soundBefore_iff.1 hs (i + 1) hi
      -- sound brackets leave a system open for this exit
      rw [refusalAt_of_pop hop, if_neg]
      rw [hlevel] at hopen
      unfold level at hopen
      omega

theorem faultAt_of_first_unsound (hr : p.interpreter.rasterizer.Reliable)
    (he : p.interpreter.exporter.Reliable) (hs : SoundBefore p.operations k)
    (hu : ¬ SoundBefore p.operations (k + 1)) : p.faultAt k = some (.stackUnderflow 1) := by
  obtain ⟨hop, hle⟩ := pop_of_first_unsound hs hu
  rw [faultAt_of_reliable hr he, refusalAt_of_pop hop, if_pos hle]

/-! ### The meaning of a run -/

variable (p) in
/-- What has been asked of those that draw and export before `k`, after the events `before`, and
what they have made of the canvas and of the world. -/
structure Asked (before : List (Event α)) (k : Nat) (s : Stage α σ) : Prop where
  calls : s.events.toList.filter (fun e => !e.isMessage) =
    before.filter (fun e => !e.isMessage) ++ (p.callsBefore k).filter p.interpreter.watches
  canvas : s.frame.canvas = p.canvasBefore k
  world : s.world = p.worldBefore k

variable {before : List (Event α)} {s : Stage α σ}

theorem Shown.asked (h : p.Shown before k s) : p.Asked before k s where
  calls := by
    rw [h.events, List.filter_append, List.filter_comm, filter_toldBefore]
  canvas := h.canvas
  world := h.world

theorem Asked.of_pop (h : p.Asked before (k + 1) s) (hop : p.operations[k]? = some .pop) :
    p.Asked before k s := by
  have hcall : p.callAt k = none := by simp [callAt, hop, drawAt, drawing?]
  refine ⟨?_, ?_, ?_⟩
  · rw [h.calls, callsBefore_succ, hcall, Option.toList_none, List.append_nil]
  · rw [h.canvas, canvasBefore_succ_of_quiet hcall]
  · rw [h.world, worldBefore_succ, hcall]

theorem run_take_of_sound (h₀ : p.Stands before 0 s) (hdef : p.symbols.Defines p.operations)
    (hsteps : 3 ≤ p.interpreter.steps) (hr : p.interpreter.rasterizer.Reliable)
    (he : p.interpreter.exporter.Reliable) (hk : k ≤ p.operations.length)
    (hs : SoundBefore p.operations k) :
    (p.interpreter.run p.symbols (p.operations.take k) s).fault? = none ∧
      p.Stands before k (p.interpreter.run p.symbols (p.operations.take k) s).state :=
  stands_run_take h₀ hk fun _ hi => faultAt_of_sound hdef hsteps hr he hs hi

/-- A run stops at the first exit that leaves too much, with nothing but the outermost system. -/
theorem run_of_first_unsound (h₀ : p.Stands before 0 s) (hdef : p.symbols.Defines p.operations)
    (hsteps : 3 ≤ p.interpreter.steps) (hr : p.interpreter.rasterizer.Reliable)
    (he : p.interpreter.exporter.Reliable) (hs : SoundBefore p.operations k)
    (hu : ¬ SoundBefore p.operations (k + 1)) :
    let o := p.interpreter.run p.symbols p.operations s
    p.operations[k]? = some .pop ∧
      o = p.interpreter.run p.symbols (p.operations.take (k + 1)) s ∧
      o.fault? = some (.stackUnderflow 1) ∧
      o.state.frame.stack = .single (p.topBefore k) ∧ p.Asked before k o.state := by
  intro o
  obtain ⟨hop, hle⟩ := pop_of_first_unsound hs hu
  obtain ⟨htake, hfault, hshown, hstack⟩ :=
    run_stops h₀ (fun _ hi => faultAt_of_sound hdef hsteps hr he hs hi)
      (faultAt_of_first_unsound hr he hs hu)
  refine ⟨hop, htake, hfault, ?_, hshown.asked.of_pop hop⟩
  -- no system is open, so the top is all there is
  rw [hstack, ← top_stackBefore hs, OriginStack.single,
    ← below_stackBefore (p := p) (k := k) (by unfold level; omega)]

end Performance

open Nesting Performance

variable {α σ : Type} [Zero α] [One α] [Add α] [Mul α] [Neg α] [Div α] [NatCast α] [Circular α]
variable [Farthest α]

/-- **A flat sequence of operations means what its brackets say.**  On a fresh frame a run fails
exactly when somewhere more systems have been left than were entered, at the first such exit and
with nothing but the outermost system; before every position up to there the stack is as deep as
there are open systems, its top is the product of the transformations that are in scope, and
exactly the calls of the operations before it have been made. -/
theorem Interpreter.run_scoped (I : Interpreter α σ) (t : SymbolTable α)
    (ops : List (Operation α)) (index : Int) (size : Nat) (events : Array (Event α)) (world : σ)
    (hdef : t.Defines ops) (hsteps : 3 ≤ I.steps) (hr : I.rasterizer.Reliable)
    (he : I.exporter.Reliable) :
    let s : Stage α σ := ⟨.blank index size, events, world⟩
    let p : Performance α σ := ⟨I, t, ops, index, .blank size, world⟩
    ((I.run t ops s).fault? = some (.stackUnderflow 1) ↔
      ∃ k ≤ ops.length, pushes (ops.take k) < pops (ops.take k)) ∧
    ((I.run t ops s).fault? = none ↔
      ∀ k ≤ ops.length, pops (ops.take k) ≤ pushes (ops.take k)) ∧
    (∀ k, SoundBefore ops k → ¬ SoundBefore ops (k + 1) →
      ops[k]? = some .pop ∧ I.run t ops s = I.run t (ops.take (k + 1)) s ∧
      (I.run t ops s).fault? = some (.stackUnderflow 1) ∧
      (I.run t ops s).state.frame.stack = .single (p.topBefore k) ∧
      p.Asked events.toList k (I.run t ops s).state) ∧
    (∀ k ≤ ops.length, SoundBefore ops k →
      (I.run t (ops.take k) s).fault? = none ∧
      (I.run t (ops.take k) s).state.frame.stack.depth =
        1 + pushes (ops.take k) - pops (ops.take k) ∧
      (I.run t (ops.take k) s).state.frame.stack.top = p.topBefore k ∧
      p.Asked events.toList k (I.run t (ops.take k) s).state) ∧
    ∀ k op, ops[k]? = some op →
      (p.matrixAt k).isSome = op.transforms ∧ (p.callAt k).isSome = op.calls := by
  intro s p
  have h₀ : p.Stands events.toList 0 s :=
    ⟨⟨rfl, Frame.idle_blank .., rfl, rfl, by simp [s]⟩, rfl⟩
  have sound (k : Nat) (hk : k ≤ ops.length) (hs : SoundBefore ops k) :=
    run_take_of_sound (p := p) (k := k) h₀ hdef hsteps hr he hk hs
  have unsound (k : Nat) (hs : SoundBefore ops k) (hu : ¬ SoundBefore ops (k + 1)) :=
    run_of_first_unsound (p := p) (k := k) h₀ hdef hsteps hr he hs hu
  have whole (hs : SoundBefore ops ops.length) : (I.run t ops s).fault? = none := by
    have := (sound ops.length le_rfl hs).1
    rwa [List.take_length] at this
  have stopped (hu : ¬ SoundBefore ops ops.length) :
      (I.run t ops s).fault? = some (.stackUnderflow 1) := by
    obtain ⟨k, -, hs, hu⟩ := exists_first_unsound hu
    exact (unsound k hs hu).2.2.1
  -- a run of either kind settles both equivalences, as they exclude each other
  have hunsound : ¬ SoundBefore ops ops.length ↔
      ∃ k ≤ ops.length, pushes (ops.take k) < pops (ops.take k) := by
    simp only [SoundBefore, not_forall, not_le, exists_prop]
  refine ⟨⟨fun h => hunsound.1 fun hs => ?_, fun h => stopped (hunsound.2 h)⟩,
    ⟨fun h => ?_, whole⟩, unsound, fun k hk hs => ?_, fun k op hop => ?_⟩
  · rw [whole hs] at h
    cases h
  · by_contra hu
    rw [stopped hu] at h
    cases h
  · obtain ⟨hfault, hstands⟩ := sound k hk hs
    refine ⟨hfault, ?_, ?_, hstands.toShown.asked⟩
    · rw [hstands.stack]
      exact depth_stackBefore hs
    · rw [hstands.stack]
      exact top_stackBefore hs
  · exact isSome_of_defined (p := p) hdef hsteps hop

/-- A box that turns in a system of its own, a sphere around it and then an exit too many. -/
theorem Interpreter.run_scoped_exit_too_many :
    let I : Interpreter Float Unit := ⟨.silent, .silent, .default, 3, fun _ => true⟩
    let t : SymbolTable Float := ⟨.ofList [("spin", 0.5)], .ofList [("clay", .white)]⟩
    let ops : List (Operation Float) :=
      [.push, .rotate .x 90 (some "spin"), .box ⟨0, 0, 0⟩ ⟨1, 1, 1⟩ (some "clay") none, .pop,
        .sphere ⟨0, 0, 0⟩ 2 none none, .pop, .display]
    t.Defines ops ∧ 3 ≤ I.steps ∧ I.rasterizer.Reliable ∧ I.exporter.Reliable ∧
      (I.run t ops ⟨.blank 0 500, #[], ()⟩).fault? = some (.stackUnderflow 1) := by
  intro I t ops
  have hdef : t.Defines ops := by
    simp [SymbolTable.Defines, ops, Operation.factor?, Operation.material?, t, SymbolTable.knob?,
      SymbolTable.constants?, OrderedMap.get?, OrderedMap.ofList, OrderedMap.insertAll,
      OrderedMap.insert, OrderedMap.put, OrderedMap.empty]
  have hsteps : 3 ≤ I.steps := le_rfl
  refine ⟨hdef, hsteps, Rasterizer.reliable_silent, Exporter.reliable_silent, ?_⟩
  exact (I.run_scoped t ops 0 500 #[] () hdef hsteps Rasterizer.reliable_silent
    Exporter.reliable_silent).1.2 ⟨6, by simp [ops], (by decide : 1 < 2)⟩

end Flipbook
