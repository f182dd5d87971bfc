import Flipbook.Outcome
import Mathlib.Tactic.Common

/-!
# Steps one after the other

Facts about outcomes that hold of any steps: how `andThen`, `map` and `sequence` act on the state
and on the fault, and that a sequence ends with the first of its steps that stops, in the state
that the steps before it have led to (`Outcome.sequence_of_stop`).  A computation without a state
fails as its parts do (`OnlyFails.bind`, `OnlyFails.foldlM`).
-/

namespace Flipbook

namespace Outcome

variable {σ τ ι : Type}

@[simp] theorem done_state (s : σ) : (done s).state = s := rfl

@[simp] theorem done_fault (s : σ) : (done s).fault? = none := rfl

@[simp] theorem failed_state (s : σ) (f : Fault) : (failed s f).state = s := rfl

@[simp] theorem failed_fault (s : σ) (f : Fault) : (failed s f).fault? = some f := rfl

@[simp] theorem map_state (g : σ → τ) (o : Outcome σ) : (o.map g).state = g o.state := rfl

@[simp] theorem map_fault (g : σ → τ) (o : Outcome σ) : (o.map g).fault? = o.fault? := rfl

theorem eq_done {o : Outcome σ} (h : o.fault? = none) : o = done o.state := by
  cases o; cases h; rfl

theorem andThen_of_none {o : Outcome σ} (h : o.fault? = none) (next : σ → Outcome σ) :
    o.andThen next = next o.state := by
  simp only [andThen, h]

theorem andThen_of_some {o : Outcome σ} {f : Fault} (h : o.fault? = some f)
    (next : σ → Outcome σ) : o.andThen next = o := by
  simp only [andThen, h]

@[simp] theorem done_andThen (s : σ) (next : σ → Outcome σ) : (done s).andThen next = next s := rfl

@[simp] theorem failed_andThen (s : σ) (f : Fault) (next : σ → Outcome σ) :
    (failed s f).andThen next = failed s f := rfl

@[simp] theorem andThen_done (o : Outcome σ) : o.andThen done = o := by
  cases h : o.fault? with
  | none => rw [andThen_of_none h, ← eq_done h]
  | some f => exact andThen_of_some h done

theorem andThen_assoc (o : Outcome σ) (f g : σ → Outcome σ) :
    (o.andThen f).andThen g = o.andThen fun s => (f s).andThen g := by
  cases h : o.fault? with
  | none => rw [andThen_of_none h, andThen_of_none h]
  | some e => rw [andThen_of_some h, andThen_of_some h, andThen_of_some h]

theorem andThen_fault_none {o : Outcome σ} {next : σ → Outcome σ}
    (h : (o.andThen next).fault? = none) : o.fault? = none ∧ (next o.state).fault? = none := by
  cases ho : o.fault? with
  | none => exact ⟨rfl, by rwa [andThen_of_none ho] at h⟩
  | some f => rw [andThen_of_some ho, ho] at h; cases h

variable (step : ι → σ → Outcome σ)

@[simp] theorem sequence_nil (s : σ) : sequence step [] s = done s := rfl

theorem sequence_cons (i : ι) (is : List ι) (s : σ) :
    sequence step (i :: is) s = (step i s).andThen (sequence step is) := rfl

theorem sequence_append (is js : List ι) (s : σ) :
    sequence step (is ++ js) s = (sequence step is s).andThen (sequence step js) := by
  induction is generalizing s with
  | nil => rfl
  | cons i is ih =>
    rw [List.cons_append, sequence_cons, sequence_cons, andThen_assoc]
    congr 1
    exact funext ih

theorem sequence_singleton (i : ι) (s : σ) : sequence step [i] s = step i s :=
  andThen_done _

variable {step}

theorem sequence_take_succ {is : List ι} {k : Nat} {i : ι} (hi : is[k]? = some i) (s : σ) :
    sequence step (is.take (k + 1)) s = (sequence step (is.take k) s).andThen (step i) := by
  rw [List.take_add_one, hi, sequence_append]
  congr 1
  exact funext fun s => sequence_singleton step i s

theorem sequence_of_stop {is : List ι} {k : Nat} {i : ι} {s : σ} {f : Fault}
    (hi : is[k]? = some i) (hk : (sequence step (is.take k) s).fault? = none)
    (hf : (step i (sequence step (is.take k) s).state).fault? = some f) :
    sequence step is s = step i (sequence step (is.take k) s).state := by
  conv_lhs => rw [← List.take_append_drop (k + 1) is]
  rw [sequence_append, sequence_take_succ hi, andThen_of_none hk, andThen_of_some hf]

/-! ### What every step keeps -/

theorem andThen_state {P : σ → Prop} {o : Outcome σ} {next : σ → Outcome σ} (ho : P o.state)
    (hnext : ∀ s, P s → P (next s).state) : P (o.andThen next).state := by
  cases h : o.fault? with
  | none => rw [andThen_of_none h]; exact hnext _ ho
  | some f => rwa [andThen_of_some h]

/-- What every step keeps, a sequence keeps, whether it stops or not. -/
theorem sequence_state {P : σ → Prop} {is : List ι}
    (h : ∀ i ∈ is, ∀ s, P s → P (step i s).state) {s : σ} (hs : P s) :
    P (sequence step is s).state := by
  induction is generalizing s with
  | nil => exact hs
  | cons i is ih =>
    exact andThen_state (h i List.mem_cons_self s hs) fun _ =>
      ih fun j hj => h j (List.mem_cons_of_mem i hj)

/-! ### The first place at which something fails -/

/-- A property holds of all places before `n`, or there is a first place at which it fails. -/
theorem forall_or_first (P : Nat → Prop) (n : Nat) :
    (∀ i < n, P i) ∨ ∃ k < n, (∀ i < k, P i) ∧ ¬ P k := by
  induction n with
  | zero => exact .inl fun i hi => absurd hi (by omega)
  | succ n ih =>
    rcases ih with hall | ⟨k, hk, hbefore, hnot⟩
    · by_cases hn : P n
      · refine .inl fun i hi => ?_
        rcases Nat.lt_or_ge i n with hlt | hge
        · exact hall i hlt
        · obtain rfl : i = n := by omega
          exact hn
      · exact .inr ⟨n, by omega, hall, hn⟩
    · exact .inr ⟨k, by omega, hbefore, hnot⟩

end Outcome

/-! ### Computations without a state -/

theorem exists_of_bind_eq_ok {ε β γ : Type} {x : Except ε β} {g : β → Except ε γ} {c : γ}
    (h : x >>= g = .ok c) : ∃ b, x = .ok b ∧ g b = .ok c := by
  cases x with
  | error => cases h
  | ok b => exact ⟨b, rfl, h⟩

theorem exists_of_map_eq_ok {ε β γ : Type} {x : Except ε β} {g : β → γ} {c : γ}
    (h : x.map g = .ok c) : ∃ b, x = .ok b ∧ g b = c := by
  cases x with
  | error => cases h
  | ok b => exact ⟨b, rfl, Except.ok.inj h⟩

theorem eq_ok_of_toOption {ε β : Type} {x : Except ε β} {b : β} (h : x.toOption = some b) :
    x = .ok b := by
  cases x with
  | error => cases h
  | ok c => exact congrArg Except.ok (Option.some.inj h)

/-- Why a computation fails, if it does. -/
def failure? {ε β : Type} : Except ε β → Option ε
  | .error f => some f
  | .ok _ => none

theorem eq_error_of_failure? {ε β : Type} {x : Except ε β} {f : ε} (h : failure? x = some f) :
    x = .error f := by
  cases x with
  | error g => exact congrArg Except.error (Option.some.inj h)
  | ok => cases h

theorem mapError_eq_ok_iff {ε δ β : Type} {x : Except ε β} {g : ε → δ} {b : β} :
    x.mapError g = .ok b ↔ x = .ok b := by
  cases x <;> simp [Except.mapError]

theorem mapM_eq_of_forall₂ {ε β γ : Type} {g : β → Except ε γ} {bs : List β} {cs : List γ}
    (h : List.Forall₂ (fun b c => g b = .ok c) bs cs) : bs.mapM g = .ok cs := by
  induction h with
  | nil => rfl
  | cons hg _ ih =>
    rw [List.mapM_cons, hg, ih]
    rfl

theorem forall₂_of_mapM_eq {ε β γ : Type} {g : β → Except ε γ} {bs : List β} {cs : List γ}
    (h : bs.mapM g = .ok cs) : List.Forall₂ (fun b c => g b = .ok c) bs cs := by
  induction bs generalizing cs with
  | nil =>
    cases h
    exact .nil
  | cons b bs ih =>
    rw [List.mapM_cons] at h
    obtain ⟨c, hc, h⟩ := exists_of_bind_eq_ok h
    obtain ⟨cs', hcs, h⟩ := exists_of_bind_eq_ok h
    cases h
    exact .cons hc (ih hcs)

theorem exists_forall₂ {β γ : Type} {R : β → γ → Prop} {bs : List β}
    (h : ∀ b ∈ bs, ∃ c, R b c) : ∃ cs, List.Forall₂ R bs cs := by
  induction bs with
  | nil => exact ⟨[], .nil⟩
  | cons b bs ih =>
    obtain ⟨c, hc⟩ := h b List.mem_cons_self
    obtain ⟨cs, hcs⟩ := ih fun b' hb' => h b' (List.mem_cons_of_mem b hb')
    exact ⟨c :: cs, .cons hc hcs⟩

/-- Every failure is one that `P` allows. -/
def OnlyFails {ε β : Type} (P : ε → Prop) (x : Except ε β) : Prop := ∀ f, x = .error f → P f

namespace OnlyFails

variable {ε β γ : Type} {P : ε → Prop} {x : Except ε β}

theorem ok (b : β) : OnlyFails P (.ok b : Except ε β) := by
  rintro f ⟨⟩

theorem error {f : ε} (h : P f) : OnlyFails P (.error f : Except ε β) := by
  rintro g ⟨⟩
  exact h

theorem bind_ok {g : β → Except ε γ} (hx : OnlyFails P x)
    (hg : ∀ b, x = .ok b → OnlyFails P (g b)) : OnlyFails P (x >>= g) := by
  cases x with
  | error f => exact error (hx f rfl)
  | ok b => exact hg b rfl

theorem bind {g : β → Except ε γ} (hx : OnlyFails P x) (hg : ∀ b, OnlyFails P (g b)) :
    OnlyFails P (x >>= g) :=
  hx.bind_ok fun b _ => hg b

theorem map (hx : OnlyFails P x) (g : β → γ) : OnlyFails P (x.map g) := by
  cases x with
  | error f => exact error (hx f rfl)
  | ok b => exact ok _

theorem mapError {δ : Type} {Q : δ → Prop} (hx : OnlyFails P x) {g : ε → δ}
    (hg : ∀ f, P f → Q (g f)) : OnlyFails Q (x.mapError g) := by
  cases x with
  | error f => exact error (hg f (hx f rfl))
  | ok b => exact ok _

theorem mono {Q : ε → Prop} (hx : OnlyFails P x) (h : ∀ f, P f → Q f) : OnlyFails Q x :=
  fun f hf => h f (hx f hf)

theorem foldlM {g : β → γ → Except ε β} {cs : List γ} (h : ∀ c ∈ cs, ∀ b, OnlyFails P (g b c))
    (b : β) : OnlyFails P (cs.foldlM g b) := by
  induction cs generalizing b with
  | nil => exact ok b
  | cons c cs ih =>
    rw [List.foldlM_cons]
    exact (h c List.mem_cons_self b).bind (ih fun c' hc' => h c' (List.mem_cons_of_mem c hc'))

end OnlyFails

end Flipbook
