import Flipbook.Proofs.ScheduleContents
import Mathlib.Data.List.Find

/-!
# Which ranges are refused

A range is refused where it starts before the first frame or ends after the last (`Vary.Refused`),
and a script fails for the first such range, whose knob, bounds and number of frames the fault names
(`KnobSchedule.fails_for_first_refused`); where one of these numbers is too long to be written, it
is writing the fault that fails (`Vary.raised_rangeFault`).

Each bound is held against one end of the animation only.  A range that runs forwards cannot slip
through between the two, because the bound that is not looked at lies beyond the other one
(`Vary.refused_iff_of_forward`).  One that runs backwards can: its start may lie after the last
frame, or its end before the first (`KnobSchedule.backward_range_accepted`).  Such a range has no
frames, and a script has the same schedule without it (`KnobSchedule.ofOperations_of_unnoticed`).
-/

namespace Flipbook

namespace Vary

variable {α : Type} {n : Int} {v : Vary α}

/-- A bound of the range is none of `n` frames. -/
def NamesOutside (n : Int) (v : Vary α) : Prop :=
  ¬ (0 ≤ v.startFrame ∧ v.startFrame < n) ∨ ¬ (0 ≤ v.endFrame ∧ v.endFrame < n)

/-- The range starts before the first of `n` frames or ends after the last. -/
def Refused (n : Int) (v : Vary α) : Prop := v.startFrame < 0 ∨ n ≤ v.endFrame

instance (n : Int) (v : Vary α) : Decidable (v.NamesOutside n) :=
  inferInstanceAs (Decidable (_ ∨ _))

instance (n : Int) (v : Vary α) : Decidable (v.Refused n) := inferInstanceAs (Decidable (_ ∨ _))

/-- The bounds of the range and the number of the last frame are short enough to be written. -/
def Writable (n : Int) (v : Vary α) : Prop :=
  Text.isWritable v.startFrame ∧ Text.isWritable v.endFrame ∧ Text.isWritable (n - 1)

instance (n : Int) (v : Vary α) : Decidable (v.Writable n) := inferInstanceAs (Decidable (_ ∧ _))

theorem raised_rangeFault (n : Int) (v : Vary α) : (v.rangeFault n).raised =
    if v.Writable n then .frameRange v.knob v.startFrame v.endFrame n
    else .conversion .tooManyDigits := by
  have hwritable : (v.rangeFault n).isWritable = true ↔ v.Writable n := by
    simp only [rangeFault, Fault.isWritable, Writable, Bool.and_eq_true, and_assoc]
  unfold Fault.raised
  split <;> rename_i h
  · rw [if_pos (hwritable.1 h)]
    rfl
  · rw [if_neg (mt hwritable.2 h)]

theorem refused_iff_of_forward (hforward : v.startFrame ≤ v.endFrame) :
    v.Refused n ↔ v.NamesOutside n := by
  unfold Refused NamesOutside
  omega

/-- What names a frame outside and is not refused, runs backwards. -/
theorem backward_of_unnoticed (h : v.NamesOutside n) (hnot : ¬ v.Refused n) :
    v.endFrame < v.startFrame := by
  by_contra hforward
  exact hnot ((refused_iff_of_forward (by omega)).2 h)

end Vary

namespace KnobSchedule

section Build

variable {α : Type} [Add α] [Sub α] [Mul α] [Div α] [OfInteger α]

theorem add_of_refused {n : Int} {v : Vary α} (h : v.Refused n) (s : KnobSchedule α) :
    add n s v = .error (if v.Writable n then .frameRange v.knob v.startFrame v.endFrame n
      else .conversion .tooManyDigits) := by
  rw [← Vary.raised_rangeFault]
  exact if_pos h

theorem add_of_backward {n : Int} {v : Vary α} (hnot : ¬ v.Refused n)
    (hbackward : v.endFrame < v.startFrame) (s : KnobSchedule α) : add n s v = .ok s := by
  have hcount : (v.endFrame + 1 - v.startFrame).toNat = 0 := by omega
  unfold Vary.Refused at hnot
  rw [KnobSchedule.add, if_neg hnot, hcount]
  rfl

/-- **A script has the same schedule without a range that names a frame outside and is not
refused.** -/
theorem ofOperations_of_unnoticed {n : Int} {v : Vary α} (h : v.NamesOutside n)
    (hnot : ¬ v.Refused n) (before after : List (Operation α)) :
    ofOperations (before ++ .vary v :: after) n = ofOperations (before ++ after) n := by
  have hvaries : varies (before ++ .vary v :: after) = varies before ++ v :: varies after := by
    simp only [varies, List.filterMap_append, List.filterMap_cons]
  have hskip (s : KnobSchedule α) :
      (v :: varies after).foldlM (add n) s = (varies after).foldlM (add n) s := by
    rw [List.foldlM_cons, add_of_backward hnot (Vary.backward_of_unnoticed h hnot)]
    rfl
  have hrest : varies (before ++ after) = varies before ++ varies after := List.filterMap_append
  rw [ofOperations, ofOperations, hvaries, hrest, List.foldlM_append, List.foldlM_append]
  exact congrArg _ (funext hskip)

end Build

/-- The range lies within `n` frames and has more of them than floats count. -/
def Endless (n : Int) (v : Vary Float) : Prop :=
  0 ≤ v.startFrame ∧ v.endFrame < n ∧ 2 ^ 1023 ≤ v.endFrame - v.startFrame + 1

theorem add_of_not_refused {n : Int} {v : Vary Float} (hnot : ¬ v.Refused n)
    (s : KnobSchedule Float) : (∃ s', add n s v = .ok s') ∨
      add n s v = .error (.conversion .outOfRange) ∧ Endless n v := by
  cases hadd : add n s v with
  | ok s' => exact .inl ⟨s', rfl⟩
  | error f =>
    refine .inr ?_
    cases add_fails n s v f hadd with
    | outside hrange | unwritable hrange => exact absurd hrange hnot
    | endless hstart hend hlong => exact ⟨rfl, hstart, hend, hlong⟩

theorem foldlM_add_cases (n : Int) (vs : List (Vary Float)) (s : KnobSchedule Float) :
    (match vs.find? (·.Refused n) with
      | some v => vs.foldlM (add n) s =
        .error (if v.Writable n then .frameRange v.knob v.startFrame v.endFrame n
          else .conversion .tooManyDigits)
      | none => ∃ s', vs.foldlM (add n) s = .ok s') ∨
    vs.foldlM (add n) s = .error (.conversion .outOfRange) ∧ ∃ v ∈ vs, Endless n v := by
  induction vs generalizing s with
  | nil => exact .inl ⟨s, rfl⟩
  | cons v vs ih =>
    rw [List.foldlM_cons]
    by_cases hv : v.Refused n
    · have hfirst : (v :: vs).find? (·.Refused n) = some v :=
        List.find?_cons_of_pos (decide_eq_true hv)
      rw [hfirst, add_of_refused hv]
      exact .inl rfl
    · have hlater : (v :: vs).find? (·.Refused n) = vs.find? (·.Refused n) :=
        List.find?_cons_of_neg (by simpa using hv)
      rw [hlater]
      rcases add_of_not_refused hv s with ⟨s', hs'⟩ | ⟨hfault, hendless⟩
      · rw [hs']
        refine (ih s').imp_right ?_
        rintro ⟨hfault, w, hw, hendless⟩
        exact ⟨hfault, w, List.mem_cons_of_mem v hw, hendless⟩
      · rw [hfault]
        exact .inr ⟨rfl, v, List.mem_cons_self, hendless⟩

/-- **A script fails for the first of its ranges that starts before the first frame or ends after
the last**, and for no other; only an endless range can stop it before.  The fault names the range,
unless its bounds cannot be written.  Where all ranges run forwards, this is the first that names a
frame outside.  One that names a frame outside and is not refused runs backwards, covers no frame
and changes nothing. -/
theorem fails_for_first_refused (ops : List (Operation Float)) (n : Int) :
    ((match (varies ops).find? (·.Refused n) with
      | some v => ofOperations ops n =
        .error (if v.Writable n then .frameRange v.knob v.startFrame v.endFrame n
          else .conversion .tooManyDigits)
      | none => ∃ s, ofOperations ops n = .ok s) ∨
      ofOperations ops n = .error (.conversion .outOfRange) ∧ ∃ v ∈ varies ops, Endless n v) ∧
    ((∀ v ∈ varies ops, v.startFrame ≤ v.endFrame) →
      (varies ops).find? (·.Refused n) = (varies ops).find? (·.NamesOutside n)) ∧
    ∀ before v after, ops = before ++ .vary v :: after → v.NamesOutside n → ¬ v.Refused n →
      v.endFrame < v.startFrame ∧ (∀ j, ¬ v.Covers j) ∧
      ofOperations ops n = ofOperations (before ++ after) n := by
  refine ⟨foldlM_add_cases n (varies ops) (empty n), fun hforward => ?_, ?_⟩
  · exact List.find?_congr fun v hv =>
      decide_eq_decide.2 (Vary.refused_iff_of_forward (hforward v hv))
  · rintro before v after rfl h hnot
    have hbackward := Vary.backward_of_unnoticed h hnot
    refine ⟨hbackward, ?_, ofOperations_of_unnoticed h hnot before after⟩
    rintro j ⟨hstart, hend⟩
    omega

/-- A range from after the last frame back into the animation and one from its first frame to
before it name frames outside, and neither is refused.  One with an end of 4301 digits is, but not
with a fault that names it. -/
theorem backward_range_accepted :
    let late : Vary Float := ⟨"turn", 3, 1, 0, 1⟩
    let early : Vary Float := ⟨"turn", 0, -2, 0, 1⟩
    let long : Vary Float := ⟨"turn", 0, 10 ^ 4300, 0, 1⟩
    late.NamesOutside 3 ∧ early.NamesOutside 3 ∧
      ofOperations [.vary late, .vary early] 3 = .ok (empty 3) ∧
      long.NamesOutside 3 ∧ ofOperations [.vary long] 3 = .error (.conversion .tooManyDigits) := by
  intro late early long
  have hoversize : long.Refused 3 := by decide +kernel
  have hlong : ¬ long.Writable 3 := by decide +kernel
  have hadd := add_of_refused hoversize (empty 3)
  rw [if_neg hlong] at hadd
  have hofLong : ofOperations [.vary long] 3 = (add 3 (empty 3) long >>= pure) := rfl
  refine ⟨by decide, by decide, rfl, by decide +kernel, ?_⟩
  rw [hofLong, hadd]
  rfl

end KnobSchedule

end Flipbook
