import Flipbook.Proofs.FrameByFrame
import Flipbook.Proofs.ScheduleFaults

/-!
# What a schedule holds

The entries of a frame are those of the ranges that cover it, each with its value there, in the
order of the script (`KnobSchedule.contents_of_operations`).

That nothing is lost or misplaced on the way is said with a second builder.
`KnobSchedule.guarded` goes through all operations, skips those that are no ranges, and looks before
every entry whether its frame is there and whether its range has parts to be divided into; it stops
where the plain builder would go on with a frame that is not there.  Both builders come out alike
for every script and every number of frames (`KnobSchedule.guarded_eq`), so the guards never hold
anything up.
-/

namespace Flipbook

namespace Vary

variable {α : Type} [Add α] [Sub α] [Mul α] [Div α] [OfInteger α]

/-- The entry of a range in a frame. -/
def entryAt (v : Vary α) (j : Int) : Except Fault (KnobEntry α) :=
  (v.valueAt j).map fun x => (v.knob, x)

theorem valueAt_of_covers {v : Vary α} {j : Int} (hj : v.Covers j) :
    OnlyFails (· = .conversion .outOfRange) (v.valueAt j) := by
  obtain ⟨hstart, hend⟩ := hj
  have hwidth : v.endFrame - v.startFrame + 1 ≠ 0 := by omega
  unfold valueAt
  dsimp only
  cases (OfInteger.ofInteger? (j - v.startFrame) : Option α) with
  | none => exact .error rfl
  | some passed =>
    cases (OfInteger.ofInteger? (v.endFrame - v.startFrame + 1) : Option α) with
    | none => exact .error rfl
    | some parts =>
      dsimp only
      rw [if_neg hwidth]
      exact .ok _

end Vary

namespace KnobSchedule

variable {α : Type} [Add α] [Sub α] [Mul α] [Div α] [OfInteger α]

/-! ### Building with guards -/

/-- Adds the entries of a knob for `count` frames from `first` on, as long as the frame is there and
the range has parts. -/
def guardedRange (v : Vary α) (first : Int) : Nat → KnobSchedule α → Except Fault (KnobSchedule α)
  | 0, s => .ok s
  | count + 1, s =>
    if first < 0 ∨ s.size ≤ first then .error .noSuchFrame
    else if v.endFrame - v.startFrame + 1 = 0 then .error .divisionByZero
    else do guardedRange v (first + 1) count (s.push first.toNat (← v.entryAt first))

/-- Adds what an operation says, which is nothing unless it is a range. -/
def guardedAdd (frameCount : Int) (s : KnobSchedule α) :
    Operation α → Except Fault (KnobSchedule α)
  | .vary v =>
    if v.startFrame < 0 ∨ frameCount ≤ v.endFrame then
      .error (Fault.frameRange v.knob v.startFrame v.endFrame frameCount).raised
    else guardedRange v v.startFrame (v.endFrame + 1 - v.startFrame).toNat s
  | _ => .ok s

/-- The schedule of a script, built with guards. -/
def guarded (ops : List (Operation α)) (frameCount : Int) : Except Fault (KnobSchedule α) :=
  ops.foldlM (guardedAdd frameCount) (empty frameCount)

omit [Add α] [Sub α] [Mul α] [Div α] [OfInteger α] in
theorem size_push (s : KnobSchedule α) (frame : Nat) (e : KnobEntry α) :
    (s.push frame e).size = s.size := by
  simp [push, size]

/-- Within the frames the guards are never met. -/
theorem guardedRange_eq {v : Vary α} {first : Int} {count : Nat} {s : KnobSchedule α}
    (hstart : 0 ≤ v.startFrame)
    (hwithin : ∀ j, first ≤ j → j < first + count → v.Covers j ∧ j < s.size) :
    guardedRange v first count s = addRange v first count s := by
  induction count generalizing first s with
  | zero => rfl
  | succ count ih =>
    obtain ⟨⟨hfirst, hend⟩, hsize⟩ := hwithin first le_rfl (by omega)
    have hthere : ¬ (first < 0 ∨ (s.size : Int) ≤ first) := by omega
    have hparts : ¬ v.endFrame - v.startFrame + 1 = 0 := by omega
    rw [guardedRange, if_neg hthere, if_neg hparts, addRange, Vary.entryAt]
    cases v.valueAt first with
    | error f => rfl
    | ok x =>
      -- one more entry leaves the number of frames as it is
      refine ih fun j h1 h2 => ?_
      rw [size_push]
      exact hwithin j (by omega) (by omega)

theorem size_addRange {v : Vary α} {first : Int} {count : Nat} {s s' : KnobSchedule α}
    (h : addRange v first count s = .ok s') : s'.size = s.size := by
  induction count generalizing first s with
  | zero =>
    cases h
    rfl
  | succ count ih =>
    unfold addRange at h
    obtain ⟨x, -, h⟩ := exists_of_bind_eq_ok h
    exact (ih h).trans (size_push ..)

theorem size_add {n : Int} {v : Vary α} {s s' : KnobSchedule α} (h : add n s v = .ok s') :
    s'.size = s.size := by
  unfold KnobSchedule.add at h
  split at h
  · cases h
  · exact size_addRange h

/-- **The guards never hold anything up**: every entry goes to a frame that is there. -/
theorem guarded_eq (ops : List (Operation α)) (n : Int) : guarded ops n = ofOperations ops n := by
  -- the induction is on the operations to come, over all schedules of `n` frames
  have go (s : KnobSchedule α) (hs : s.size = n.toNat) :
      ops.foldlM (guardedAdd n) s = (varies ops).foldlM (add n) s := by
    induction ops generalizing s with
    | nil => rfl
    | cons op ops ih =>
      cases op with
      | vary v =>
        have hadd : guardedAdd n s (.vary v) = add n s v := by
          simp only [guardedAdd, KnobSchedule.add]
          by_cases hrange : v.startFrame < 0 ∨ n ≤ v.endFrame
          · rw [if_pos hrange, if_pos hrange]
          · rw [if_neg hrange, if_neg hrange]
            -- a range that runs backwards has no frames at all
            refine guardedRange_eq (by omega) fun j h1 h2 => ⟨⟨h1, ?_⟩, ?_⟩ <;> omega
        have hvaries : varies (.vary v :: ops) = v :: varies ops := rfl
        rw [List.foldlM_cons, hadd, hvaries, List.foldlM_cons]
        cases hv : add n s v with
        | error f => rfl
        | ok s' => exact ih s' ((size_add hv).trans hs)
      | _ => exact ih s hs
  exact go (empty n) (by simp [empty, size])

/-! ### The entries of a frame -/

theorem Lists.entriesAt {n : Int} {vs : List (Vary α)} {s : KnobSchedule α} (h : Lists n vs s)
    {j : Nat} (hj : j < n) : ∃ es, s.entriesAt j = .ok es ∧
      (vs.filter (·.Covers j)).mapM (·.entryAt j) = .ok es.toList := by
  have hlt : j < s.frames.size := by
    rw [h.size]
    omega
  have hes : s.frames[j]? = some s.frames[j] := Array.getElem?_eq_getElem hlt
  refine ⟨s.frames[j], ?_, mapM_eq_of_forall₂ ((h.entries j _ hes).imp ?_)⟩
  · rw [entriesAt_natCast, hes]
  · rintro v ⟨name, x⟩ ⟨rfl, hvalue⟩
    rw [Vary.entryAt, hvalue]
    rfl

theorem ofOperations_onlyFails (ops : List (Operation α)) (n : Int) :
    OnlyFails (fun f => (∃ v ∈ varies ops, (v.startFrame < 0 ∨ n ≤ v.endFrame) ∧
        f = (Fault.frameRange v.knob v.startFrame v.endFrame n).raised) ∨
          f = .conversion .outOfRange)
      (ofOperations ops n) := by
  refine OnlyFails.foldlM (fun v hv s => ?_) _
  unfold KnobSchedule.add
  split
  · rename_i houtside
    exact .error (.inl ⟨v, hv, houtside, rfl⟩)
  · refine addRange_fails (fun j h1 h2 => ?_) s
    have hcovers : v.Covers j := ⟨h1, by omega⟩
    exact (Vary.valueAt_of_covers hcovers).mono fun f hf => .inr hf

/-- **A schedule holds for every frame the ranges that cover it**, in the order of the script and
each with its value, and nothing else; every entry is put into a frame that is there, and no value
divides by zero. -/
theorem contents_of_operations (ops : List (Operation α)) (n : Int) :
    guarded ops n = ofOperations ops n ∧
    OnlyFails (fun f => (∃ v ∈ varies ops, (v.startFrame < 0 ∨ n ≤ v.endFrame) ∧
        f = (Fault.frameRange v.knob v.startFrame v.endFrame n).raised) ∨
          f = .conversion .outOfRange)
      (ofOperations ops n) ∧
    ∀ s, ofOperations ops n = .ok s →
      (s.size : Int) = max n 0 ∧
      (∀ j : Nat, j < n → ∃ es, s.entriesAt j = .ok es ∧
        ((varies ops).filter (·.Covers j)).mapM (·.entryAt j) = .ok es.toList) ∧
      ∀ ops', varies ops' = varies ops →
        ofOperations ops' n = .ok s ∧ guarded ops' n = .ok s := by
  refine ⟨guarded_eq ops n, ofOperations_onlyFails ops n, ?_⟩
  intro s hs
  have hlists := lists_ofOperations hs
  refine ⟨?_, ?_, ?_⟩
  · rw [size, hlists.size]
    omega
  · intro j hj
    exact hlists.entriesAt hj
  · intro ops' hvaries
    have hs' : ofOperations ops' n = .ok s := by rwa [ofOperations, hvaries]
    exact ⟨hs', (guarded_eq ops' n).trans hs'⟩

/-- Two ranges of a knob that overlap, and a range whose end lies just before its start. -/
theorem contents_of_operations_overlapping :
    let ops : List (Operation Float) := [.vary ⟨"turn", 0, 2, 0, 3⟩, .push,
      .vary ⟨"turn", 1, 1, 7, 7⟩, .vary ⟨"size", 2, 1, 0, 1⟩]
    let ops' : List (Operation Float) := [.vary ⟨"turn", 0, 2, 0, 3⟩,
      .vary ⟨"turn", 1, 1, 7, 7⟩, .vary ⟨"size", 2, 1, 0, 1⟩, .display]
    ∃ s es, ofOperations ops 3 = .ok s ∧ s.size = 3 ∧ (1 : Nat) < (3 : Int) ∧
      s.entriesAt 1 = .ok es ∧ es.toList = [("turn", 1), ("turn", 7)] ∧
      varies ops' = varies ops ∧ ofOperations ops' 3 = .ok s := by
  intro ops ops'
  have hbuilt : (ofOperations ops 3).toOption.isSome := by decide +kernel
  cases hs : ofOperations ops 3 with
  | error f => rw [hs] at hbuilt; cases hbuilt
  | ok s =>
    obtain ⟨-, -, h⟩ := contents_of_operations ops 3
    obtain ⟨hsize, hentries, hsame⟩ := h s hs
    obtain ⟨es, hes, hvalues⟩ := hentries 1 (by decide)
    have hlisted : (((varies ops).filter fun v : Vary Float => v.Covers (1 : Nat)).mapM
        fun v : Vary Float => v.entryAt (1 : Nat)).toOption =
          some [("turn", 1), ("turn", 7)] := by decide +kernel
    rw [hvalues] at hlisted
    exact ⟨s, es, rfl, by omega, by decide, hes, Option.some.inj hlisted, rfl, (hsame ops' rfl).1⟩

end KnobSchedule

end Flipbook
