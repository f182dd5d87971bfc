import Flipbook.Proofs.ScopedRun

/-!
# What a performance depends on

Operations read their symbols by name, so tables that agree on the names that are read
(`SymbolTable.AgreeOn`) make no difference to what is drawn and called, and neither does the number
of the frame.  The world of the exporter decides only whether the exporter stops: where the exporter
answers alike in two worlds (`Exporter.AnswersAlike`), two runs of the same operations on the same
canvas stop at the same place or not at all (`Performance.run_again`).
-/

namespace Flipbook

/-- The tables hold the same for every knob and every material that the operations read. -/
structure SymbolTable.AgreeOn {α : Type} (ops : List (Operation α)) (t t' : SymbolTable α) :
    Prop where
  knob : ∀ op ∈ ops, ∀ name, op.factor? = some name → t.knob? name = t'.knob? name
  constants : ∀ op ∈ ops, ∀ name, op.material? = some name →
    t.constants? name = t'.constants? name

theorem SymbolTable.AgreeOn.refl {α : Type} (ops : List (Operation α)) (t : SymbolTable α) :
    t.AgreeOn ops t :=
  ⟨fun _ _ _ _ => rfl, fun _ _ _ _ => rfl⟩

/-- In two worlds that `R` relates the exporter stops at the same pictures, and leaves such worlds
behind. -/
structure Exporter.AnswersAlike {σ : Type} (e : Exporter σ) (R : σ → σ → Prop) : Prop where
  save : ∀ picture filename w w', R w w' →
    (e.save picture filename w).fault? = (e.save picture filename w').fault? ∧
      R (e.save picture filename w).world (e.save picture filename w').world
  display : ∀ picture w w', R w w' →
    (e.display picture w).fault? = (e.display picture w').fault? ∧
      R (e.display picture w).world (e.display picture w').world

theorem Exporter.answersAlike_eq {σ : Type} (e : Exporter σ) : e.AnswersAlike (· = ·) := by
  constructor
  · rintro picture filename w _ rfl
    exact ⟨rfl, rfl⟩
  · rintro picture w _ rfl
    exact ⟨rfl, rfl⟩

namespace Performance

open Nesting Interpreter

variable {α σ : Type}

/-- The same operations on the same canvas under another number, with other symbols and in another
world. -/
def again (p : Performance α σ) (t : SymbolTable α) (n : Int) (w : σ) :
    Performance α σ :=
  { p with symbols := t, index := n, world := w }

variable {p : Performance α σ} {t : SymbolTable α} {n : Int} {w : σ}
variable {k : Nat} {op : Operation α}

theorem interpreter_again : (p.again t n w).interpreter = p.interpreter := rfl

theorem operations_again : (p.again t n w).operations = p.operations := rfl

theorem canvas_again : (p.again t n w).canvas = p.canvas := rfl

theorem factor_of_agree [One α] {name : Option String}
    (h : ∀ m, name = some m → p.symbols.knob? m = t.knob? m) :
    factor t name = factor p.symbols name := by
  cases name with
  | none => rfl
  | some n => simp only [factor, h n rfl]

theorem material_of_agree {I : Interpreter α σ} {name : Option String}
    (h : ∀ m, name = some m → p.symbols.constants? m = t.constants? m) :
    I.material t name = I.material p.symbols name := by
  cases name with
  | none => rfl
  | some n => simp only [material, h n rfl]

section Agree

variable [Zero α] [One α] [Mul α] [Neg α] [Circular α] (h : p.symbols.AgreeOn p.operations t)

include h

theorem matrix?_again (hop : op ∈ p.operations) :
    (p.again t n w).matrix? op = p.matrix? op := by
  have hfactor := factor_of_agree (h.knob op hop)
  cases op with
  | move | scale | rotate =>
    simp only [Operation.factor?] at hfactor
    simp only [matrix?, again, hfactor]
  | _ => rfl

theorem matrixAt_again : (p.again t n w).matrixAt = p.matrixAt := by
  funext i
  cases hop : p.operations[i]? with
  | none => simp only [matrixAt, again, hop, Option.bind_none]
  | some op =>
    rw [matrixAt_eq hop, matrixAt_eq (p := p.again t n w) hop,
      matrix?_again h (List.mem_of_getElem? hop)]

variable [Add α]

theorem topBefore_again (k : Nat) : (p.again t n w).topBefore k = p.topBefore k := by
  simp only [topBefore, matricesBefore, matrixAt_again h, operations_again]

theorem stackBefore_again (k : Nat) :
    (p.again t n w).stackBefore k = p.stackBefore k := by
  simp only [stackBefore, originAt, matricesUnder, matrixAt_again h]
  rfl

variable [Div α] [NatCast α]

theorem drawing?_again (hop : op ∈ p.operations) (top : Matrix4 α) :
    (p.again t n w).drawing? top op = p.drawing? top op := by
  have hmaterial := material_of_agree (I := p.interpreter) (h.constants op hop)
  cases op with
  | box | sphere | torus =>
    simp only [Operation.material?] at hmaterial
    simp only [drawing?, again, hmaterial]
  | _ => rfl

theorem drawAt_again : (p.again t n w).drawAt = p.drawAt := by
  funext i
  cases hop : p.operations[i]? with
  | none => simp only [drawAt, again, hop, Option.bind_none]
  | some op =>
    rw [drawAt_eq hop, drawAt_eq (p := p.again t n w) hop, topBefore_again h,
      drawing?_again h (List.mem_of_getElem? hop)]

theorem canvasBefore_again (k : Nat) :
    (p.again t n w).canvasBefore k = p.canvasBefore k := by
  simp only [canvasBefore, drawAt_again h, interpreter_again, canvas_again]

theorem callAt_again : (p.again t n w).callAt = p.callAt := by
  funext i
  unfold callAt
  rw [drawAt_again h, canvasBefore_again h, operations_again]

theorem callsBefore_again (k : Nat) :
    (p.again t n w).callsBefore k = p.callsBefore k := by
  simp only [callsBefore, callAt_again h]

theorem refusalAt_again (k : Nat) : (p.again t n w).refusalAt k = p.refusalAt k := by
  unfold refusalAt
  rw [operations_again]
  cases hop : p.operations[k]? with
  | none => rfl
  | some op =>
    have hmatrix := matrix?_again h (List.mem_of_getElem? hop) (n := n) (w := w)
    have hdrawing := drawing?_again h (List.mem_of_getElem? hop) (n := n) (w := w)
    cases op with
    | pop => rfl
    | _ => simp only [hmatrix, hdrawing, topBefore_again h]

variable {R : σ → σ → Prop} (he : p.interpreter.exporter.AnswersAlike R)
  (hworld : R p.world w)

include he hworld

theorem worldBefore_again (k : Nat) :
    R (p.worldBefore k) ((p.again t n w).worldBefore k) := by
  induction k with
  | zero => exact hworld
  | succ k ih =>
    rw [worldBefore_succ, worldBefore_succ, callAt_again h]
    cases hcall : p.callAt k with
    | none => exact ih
    | some e =>
      rcases call_cases hcall with ⟨_, _, rfl⟩ | ⟨_, rfl⟩ | ⟨_, _, rfl⟩ | ⟨_, rfl⟩
      · exact ih
      · exact ih
      · exact (he.save _ _ _ _ ih).2
      · exact (he.display _ _ _ ih).2

/-- The operations stop alike. -/
theorem faultAt_again (k : Nat) : (p.again t n w).faultAt k = p.faultAt k := by
  cases hcall : p.callAt k with
  | none =>
    have hcall' : (p.again t n w).callAt k = none := by rw [callAt_again h, hcall]
    rw [faultAt_of_quiet hcall, faultAt_of_quiet hcall', refusalAt_again h]
  | some e =>
    have hcall' : (p.again t n w).callAt k = some e := by rw [callAt_again h, hcall]
    have hanswer : (p.interpreter.handOver e (p.worldBefore k)).fault? =
        (p.interpreter.handOver e ((p.again t n w).worldBefore k)).fault? := by
      have hworlds := worldBefore_again h he hworld (n := n) k
      -- only what the exporter takes depends on the world
      rcases call_cases hcall with ⟨_, _, rfl⟩ | ⟨_, rfl⟩ | ⟨_, _, rfl⟩ | ⟨_, rfl⟩
      · simp only [handOver]
      · simp only [handOver]
      · exact (he.save _ _ _ _ hworlds).1
      · exact (he.display _ _ _ hworlds).1
    rw [faultAt_of_call hcall, faultAt_of_call hcall', canvasBefore_again h, hanswer,
      interpreter_again]

end Agree

variable [Zero α] [One α] [Add α] [Mul α] [Neg α] [Div α] [NatCast α] [Circular α]

/-- Two outcomes have the same fault, and their stages show the same place of the same
performance. -/
structure EndAlike (before before' : List (Event α)) (p q : Performance α σ)
    (o o' : Outcome (Stage α σ)) : Prop where
  fault : o.fault? = o'.fault?
  stack : o.state.frame.stack = o'.state.frame.stack
  shown : ∃ k, p.Shown before k o.state ∧ q.Shown before' k o'.state

variable {before before' : List (Event α)} {s s' : Stage α σ} {R : σ → σ → Prop}

/-- **Two runs of the same operations come out alike**, whatever the number of the frame and
whatever the tables hold for names that are not read. -/
theorem run_again (h : p.symbols.AgreeOn p.operations t)
    (he : p.interpreter.exporter.AnswersAlike R) (hworld : R p.world w)
    (h₀ : p.Stands before 0 s) (h₀' : (p.again t n w).Stands before' 0 s') :
    EndAlike before before' p (p.again t n w)
      (p.interpreter.run p.symbols p.operations s) (p.interpreter.run t p.operations s') := by
  have same (k : Nat) := faultAt_again h he hworld (n := n) k
  rcases p.faultAt_cases p.operations.length with hok | ⟨k, -, f, hok, hf⟩
  · have hrun := stands_run_take h₀ le_rfl hok
    have hrun' := stands_run_take h₀' le_rfl fun i hi => (same i).trans (hok i hi)
    rw [List.take_length] at hrun hrun'
    refine ⟨hrun.1.trans hrun'.1.symm, ?_, _, hrun.2.toShown, hrun'.2.toShown⟩
    rw [hrun.2.stack]
    exact (stackBefore_again h _).symm.trans hrun'.2.stack.symm
  · obtain ⟨-, hfault, hshown, hstack⟩ := run_stops h₀ hok hf
    obtain ⟨-, hfault', hshown', hstack'⟩ :=
      run_stops h₀' (fun i hi => (same i).trans (hok i hi)) ((same k).trans hf)
    refine ⟨hfault.trans hfault'.symm, ?_, _, hshown, hshown'⟩
    rw [hstack]
    exact (stackBefore_again h _).symm.trans hstack'.symm

end Performance

end Flipbook
