import Flipbook.Proofs.Nesting
import Flipbook.Stage.Interpreter

/-!
# What a sequence of operations means

A `Performance` is a sequence of operations with everything it is carried out against: the symbols,
the canvas and the world of the exporter that it finds, and those that draw and write for it.  This
module says what the operations mean at every position, without a stack and without a running
state:

* `Performance.topBefore` : the current coordinate system is the product of the matrices of those
  transformations before the position that are not enclosed in a system left before it;
* `Performance.callAt` : what the operation at a position asks of those that draw and export, with
  its own points under that coordinate system and its own material;
* `Performance.canvasBefore`, `Performance.worldBefore` : what these calls make of the canvas and
  of the world;
* `Performance.toldBefore` : everything that happens, messages included;
* `Performance.faultAt` : why the operation at a position stops, if it does.
-/

namespace Flipbook

namespace Interpreter

variable {α σ : Type} (I : Interpreter α σ)

/-- Carries out an event that draws. -/
def draw (e : Event α) (c : Canvas α) : Outcome (Canvas α) :=
  match e with
  | .solid points constants => I.rasterizer.drawSolid I.scene points constants c
  | .line points => I.rasterizer.drawLine I.scene points c
  | _ => .done c

/-- Hands an event that the exporter takes to the exporter. -/
def handOver (e : Event α) (w : σ) : Report σ :=
  match e with
  | .save picture filename => I.exporter.save picture filename w
  | .display picture => I.exporter.display picture w
  | .assemble basename frames => I.exporter.assemble basename frames w
  | _ => { world := w }

end Interpreter

/-- Operations, and what they are carried out against for one frame. -/
structure Performance (α σ : Type) where
  interpreter : Interpreter α σ
  symbols : SymbolTable α
  operations : List (Operation α)
  /-- The number of the frame. -/
  index : Int
  /-- The canvas before the first operation. -/
  canvas : Canvas α
  /-- The world of the exporter before the first operation. -/
  world : σ

namespace Performance

open Nesting Interpreter

variable {α σ : Type} [Zero α] [One α] [Add α] [Mul α] [Neg α] [Div α] [NatCast α] [Circular α]
variable (p : Performance α σ)

/-! ### Coordinate systems -/

/-- The matrix of a transformation. -/
def matrix? : Operation α → Option (Except Fault (Matrix4 α))
  | .move d knob => some ((factor p.symbols knob).map fun k => .shift (d.scale k))
  | .scale d knob => some ((factor p.symbols knob).map fun k => .scaling (d.scale k))
  | .rotate axis degrees knob => some ((factor p.symbols knob).map fun k =>
      .rotation axis (degrees * Circular.degree * k))
  | _ => none

/-- The matrix of the transformation at a position. -/
def matrixAt (i : Nat) : Option (Matrix4 α) :=
  (p.operations[i]?.bind p.matrix?).bind Except.toOption

/-- The matrices, in order, of the transformations before `k` that are in scope there. -/
def matricesBefore (k : Nat) : List (Matrix4 α) :=
  (List.range k).filterMap fun i =>
    if EnclosedBefore p.operations k i then none else p.matrixAt i

/-- The coordinate system before `k`. -/
def topBefore (k : Nat) : Matrix4 α := (p.matricesBefore k).foldl (· * ·) .identity

/-! ### Calls -/

/-- Points in a coordinate system. -/
def placed (top : Matrix4 α) (points : Array (Vec3 α)) : Array (Vec4 α) :=
  points.map fun v => top.apply v.homogeneous

/-- What an operation draws in the coordinate system `top`; nothing with a material that is not
there or in too few steps. -/
def drawing? (top : Matrix4 α) : Operation α → Option (Except Fault (Event α))
  | .box corner extent name _ => some do
    let c ← p.interpreter.material p.symbols name
    return .solid (placed top (Mesh.box corner extent)) c
  | .sphere centre radius name _ => some do
    let c ← p.interpreter.material p.symbols name
    let n ← Fault.ofGeometry (Mesh.checkedSteps p.interpreter.steps)
    return .solid (placed top (Mesh.sphere centre radius n)) c
  | .torus centre tube ring name _ => some do
    let c ← p.interpreter.material p.symbols name
    let n ← Fault.ofGeometry (Mesh.checkedSteps p.interpreter.steps)
    return .solid (placed top (Mesh.torus centre tube ring n)) c
  | .line start stop .. => some (.ok (.line (placed top #[start, stop])))
  | _ => none

/-- What the operation at a position draws. -/
def drawAt (k : Nat) : Option (Event α) :=
  (p.operations[k]?.bind (p.drawing? (p.topBefore k))).bind Except.toOption

/-- What everything that is drawn before `k` makes of the canvas. -/
def canvasBefore (k : Nat) : Canvas α :=
  ((List.range k).filterMap p.drawAt).foldl (fun c e => (p.interpreter.draw e c).state) p.canvas

/-- What the operation at a position asks of those that draw and export. -/
def callAt (k : Nat) : Option (Event α) :=
  match p.operations[k]? with
  | some (.save filename) => some (.save (p.canvasBefore k).picture filename)
  | some .display => some (.display (p.canvasBefore k).picture)
  | _ => p.drawAt k

/-- All calls before `k` in order. -/
def callsBefore (k : Nat) : List (Event α) := (List.range k).filterMap p.callAt

/-- What all calls before `k` make of the world. -/
def worldBefore (k : Nat) : σ :=
  (p.callsBefore k).foldl (fun w e => (p.interpreter.handOver e w).world) p.world

/-! ### Everything that happens -/

/-- What the exporter tells about the call at a position. -/
def answersAt (k : Nat) : List (Event α) :=
  (p.callAt k).toList.flatMap fun e =>
    (p.interpreter.handOver e (p.worldBefore k)).notices.map .notice

/-- What happens at a position: the step, its call and what is told about it. -/
def toldAt (k : Nat) : List (Event α) :=
  match p.operations[k]? with
  | some op => .step p.index op :: ((p.callAt k).toList ++ p.answersAt k)
  | none => []

/-- Everything that happens before `k`. -/
def toldBefore (k : Nat) : List (Event α) := (List.range k).flatMap p.toldAt

/-- Why the operation at a position cannot be carried out: the outermost system is left, a name is
not known or there are too few steps. -/
def refusalAt (k : Nat) : Option Fault :=
  match p.operations[k]? with
  | none => none
  | some .pop =>
    if pushes (p.operations.take k) ≤ pops (p.operations.take k) then some (.stackUnderflow 1)
    else none
  | some op => match p.matrix? op, p.drawing? (p.topBefore k) op with
    | some (.error f), _ | _, some (.error f) => some f
    | _, _ => none

/-- Why the operation at a position stops: it is refused, or one of those that draw and export
stops. -/
def faultAt (k : Nat) : Option Fault :=
  (p.refusalAt k).or <| (p.callAt k).bind fun e =>
    (p.interpreter.draw e (p.canvasBefore k)).fault?.or
      (p.interpreter.handOver e (p.worldBefore k)).fault?

/-! ### From position to position -/

theorem canvasBefore_succ (k : Nat) :
    p.canvasBefore (k + 1) = match p.drawAt k with
      | some e => (p.interpreter.draw e (p.canvasBefore k)).state
      | none => p.canvasBefore k := by
  simp only [canvasBefore, List.range_succ, List.filterMap_append, List.foldl_append]
  cases h : p.drawAt k <;> simp [h]

theorem callsBefore_succ (k : Nat) :
    p.callsBefore (k + 1) = p.callsBefore k ++ (p.callAt k).toList := by
  simp only [callsBefore, List.range_succ, List.filterMap_append]
  cases h : p.callAt k <;> simp [h]

theorem worldBefore_succ (k : Nat) :
    p.worldBefore (k + 1) = match p.callAt k with
      | some e => (p.interpreter.handOver e (p.worldBefore k)).world
      | none => p.worldBefore k := by
  simp only [worldBefore, callsBefore_succ, List.foldl_append]
  cases h : p.callAt k <;> simp

theorem toldBefore_succ (k : Nat) : p.toldBefore (k + 1) = p.toldBefore k ++ p.toldAt k := by
  simp [toldBefore, List.range_succ]

@[simp] theorem toldBefore_zero : p.toldBefore 0 = [] := rfl

@[simp] theorem canvasBefore_zero : p.canvasBefore 0 = p.canvas := rfl

@[simp] theorem worldBefore_zero : p.worldBefore 0 = p.world := rfl

/-! ### Calls -/

variable {p} {k : Nat} {op : Operation α}

theorem drawAt_eq (hop : p.operations[k]? = some op) :
    p.drawAt k = (p.drawing? (p.topBefore k) op).bind Except.toOption := by
  simp only [drawAt, hop, Option.bind_some]

omit [Add α] [Div α] [NatCast α] in
theorem matrixAt_eq (hop : p.operations[k]? = some op) :
    p.matrixAt k = (p.matrix? op).bind Except.toOption := by
  simp only [matrixAt, hop, Option.bind_some]

theorem eq_ok_of_bind_toOption {β : Type} {x : Option (Except Fault β)} {b : β}
    (h : x.bind Except.toOption = some b) : x = some (.ok b) := by
  rcases x with _ | _ | _ <;> simp_all [Except.toOption]

theorem drawing_cases {top : Matrix4 α} {e : Event α} (h : p.drawing? top op = some (.ok e)) :
    (∃ points c, e = .solid points c) ∨ ∃ points, e = .line points := by
  cases op with
  | line =>
    simp only [drawing?, Option.some.injEq, Except.ok.injEq] at h
    exact .inr ⟨_, h.symm⟩
  | box _ _ name =>
    simp only [drawing?, Option.some.injEq] at h
    cases hc : p.interpreter.material p.symbols name with
    | error => rw [hc] at h; cases h
    | ok => rw [hc] at h; cases h; exact .inl ⟨_, _, rfl⟩
  | sphere _ _ name | torus _ _ _ name =>
    simp only [drawing?, Option.some.injEq] at h
    cases hc : p.interpreter.material p.symbols name with
    | error => rw [hc] at h; cases h
    | ok =>
      cases hn : Fault.ofGeometry (Mesh.checkedSteps p.interpreter.steps) with
      | error => rw [hc, hn] at h; cases h
      | ok => rw [hc, hn] at h; cases h; exact .inl ⟨_, _, rfl⟩
  | _ => cases h

theorem call_cases {e : Event α} (h : p.callAt k = some e) :
    (∃ points c, e = .solid points c) ∨ (∃ points, e = .line points) ∨
      (∃ picture filename, e = .save picture filename) ∨ ∃ picture, e = .display picture := by
  unfold callAt at h
  split at h
  · exact .inr (.inr (.inl ⟨_, _, (Option.some.inj h).symm⟩))
  · exact .inr (.inr (.inr ⟨_, (Option.some.inj h).symm⟩))
  · unfold drawAt at h
    cases hop : p.operations[k]? with
    | none => rw [hop] at h; cases h
    | some op =>
      rw [hop] at h
      exact (drawing_cases (eq_ok_of_bind_toOption h)).imp_right .inl

theorem isMessage_of_call {e : Event α} (h : p.callAt k = some e) : e.isMessage = false := by
  rcases call_cases h with ⟨_, _, rfl⟩ | ⟨_, rfl⟩ | ⟨_, _, rfl⟩ | ⟨_, rfl⟩ <;> rfl

/-- Without its messages, what is told is the calls. -/
theorem filter_toldBefore (k : Nat) :
    (p.toldBefore k).filter (fun e => !e.isMessage) = p.callsBefore k := by
  have answers (k : Nat) : (p.answersAt k).filter (fun e => !e.isMessage) = [] := by
    rw [List.filter_eq_nil_iff]
    intro e he
    simp only [answersAt, List.mem_flatMap, List.mem_map] at he
    obtain ⟨_, _, n, _, rfl⟩ := he
    simp [Event.isMessage]
  have told (k : Nat) : (p.toldAt k).filter (fun e => !e.isMessage) = (p.callAt k).toList := by
    cases hop : p.operations[k]? with
    | none => simp [toldAt, callAt, drawAt, hop]
    | some op =>
      simp only [toldAt, hop]
      rw [List.filter_cons_of_neg (by simp [Event.isMessage]), List.filter_append, answers,
        List.append_nil]
      cases hcall : p.callAt k with
      | none => rfl
      | some e => simp [isMessage_of_call hcall]
  induction k with
  | zero => rfl
  | succ k ih => rw [toldBefore_succ, callsBefore_succ, List.filter_append, ih, told]

end Performance

end Flipbook
