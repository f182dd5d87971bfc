import Flipbook.Fault

/-!
# Outcomes

A step that changes a state may stop half-way.  Its outcome holds the state that it leaves behind
in either case, and the fault that stopped it.
-/

namespace Flipbook

/-- The state after a step, and why the step stopped before its end, if it did. -/
structure Outcome (σ : Type) where
  state : σ
  fault? : Option Fault := none

namespace Outcome

variable {σ τ : Type}

/-- A step that was carried out to its end. -/
def done (s : σ) : Outcome σ := { state := s }

/-- A step that stopped. -/
def failed (s : σ) (f : Fault) : Outcome σ := { state := s, fault? := some f }

/-- Goes on with the next step, unless this one stopped. -/
def andThen (o : Outcome σ) (next : σ → Outcome σ) : Outcome σ :=
  match o.fault? with
  | none => next o.state
  | some _ => o

/-- Changes the state, also after a step that stopped. -/
def map (f : σ → τ) (o : Outcome σ) : Outcome τ := { state := f o.state, fault? := o.fault? }

/-- The outcome of a computation that leaves the state alone when it fails. -/
def ofExcept (s : σ) : Except Fault σ → Outcome σ
  | .ok t => done t
  | .error f => failed s f

/-- Goes on with the result of a computation that does not touch the state. -/
def given {β : Type} (s : σ) (x : Except Fault β) (next : β → Outcome σ) : Outcome σ :=
  match x with
  | .ok b => next b
  | .error f => failed s f

/-- The state after a step that was carried out to its end. -/
def result (o : Outcome σ) : Except Fault σ :=
  match o.fault? with
  | none => .ok o.state
  | some f => .error f

/-- Carries out steps one after the other up to the first that stops. -/
def sequence {ι : Type} (step : ι → σ → Outcome σ) : List ι → σ → Outcome σ
  | [], s => done s
  | i :: is, s => (step i s).andThen (sequence step is)

end Outcome

end Flipbook
