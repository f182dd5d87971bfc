import Flipbook.Proofs.FloatRange
import Flipbook.Proofs.KnobTimeline
import Flipbook.Proofs.LastWords
import Flipbook.Proofs.Outcome
import Flipbook.Proofs.Writable

/-!
# How a script fails before anything is drawn

The frames of a range are numbered from its start to its end, so their number is not zero and no
value of the range divides by zero; what is left is that the range does not lie within the frames of
the animation, or has so many frames that their number is no float (`Vary.Misses`).  The fault of a
range names its bounds and the last frame, and where one of them is too long to be written, that is
what fails instead.  A script without a number of frames in which knobs vary has no schedule at all.
-/

namespace Flipbook

/-- The fault of a range that does not lie within `n` frames. -/
def Vary.rangeFault {α : Type} (n : Int) (v : Vary α) : Fault :=
  .frameRange v.knob v.startFrame v.endFrame n

/-- How a range is not laid out over `n` frames. -/
inductive Vary.Misses (n : Int) (v : Vary Float) : Fault → Prop
  /-- Part of it lies outside. -/
  | outside (h : v.startFrame < 0 ∨ n ≤ v.endFrame) (hwritable : (v.rangeFault n).isWritable) :
      Misses n v (v.rangeFault n)
  /-- Part of it lies outside, and that cannot be written. -/
  | unwritable (h : v.startFrame < 0 ∨ n ≤ v.endFrame)
      (hlong : (v.rangeFault n).isWritable = false) : Misses n v (.conversion .tooManyDigits)
  /-- It lies within, and floats do not count its frames. -/
  | endless (hstart : 0 ≤ v.startFrame) (hend : v.endFrame < n)
      (hlong : 2 ^ 1023 ≤ v.endFrame - v.startFrame + 1) : Misses n v (.conversion .outOfRange)

/-- **In the frames of its range a knob has a value**, unless there are too many of them. -/
theorem Vary.valueAt_fails {v : Vary Float} {j : Int} (hj : v.Covers j) :
    OnlyFails (fun f => f = .conversion .outOfRange ∧ 2 ^ 1023 ≤ v.endFrame - v.startFrame + 1)
      (v.valueAt j) := by
  obtain ⟨hstart, hend⟩ := hj
  have hpassed : j - v.startFrame ≤ v.endFrame - v.startFrame + 1 := by omega
  have hwidth : v.endFrame - v.startFrame + 1 ≠ 0 := by omega
  unfold valueAt
  dsimp only
  cases hx : (OfInteger.ofInteger? (j - v.startFrame) : Option Float) with
  | none =>
    exact .error ⟨rfl, (FloatRange.le_of_ofInteger? (by omega) hx).trans hpassed⟩
  | some passed =>
    cases hy : (OfInteger.ofInteger? (v.endFrame - v.startFrame + 1) : Option Float) with
    | none => exact .error ⟨rfl, FloatRange.le_of_ofInteger? (by omega) hy⟩
    | some parts =>
      dsimp only
      rw [if_neg hwidth]
      exact .ok _

namespace KnobSchedule

theorem addRange_fails {α : Type} [Add α] [Sub α] [Mul α] [Div α] [OfInteger α] {v : Vary α}
    {P : Fault → Prop} {first : Int} {count : Nat}
    (h : ∀ j, first ≤ j → j < first + count → OnlyFails P (v.valueAt j)) (s : KnobSchedule α) :
    OnlyFails P (addRange v first count s) := by
  induction count generalizing first s with
  | zero => exact .ok s
  | succ count ih =>
    unfold addRange
    exact (h first le_rfl (by omega)).bind fun x => ih (fun j h1 h2 => h j (by omega) (by omega)) _

theorem add_fails (n : Int) (s : KnobSchedule Float) (v : Vary Float) :
    OnlyFails (v.Misses n) (add n s v) := by
  unfold KnobSchedule.add
  split
  · rename_i houtside
    refine .error ?_
    rcases (v.rangeFault n).raised_cases with ⟨hwritable, heq⟩ | ⟨hlong, heq⟩
    · exact heq ▸ .outside houtside hwritable
    · exact heq ▸ .unwritable houtside hlong
  · rename_i hwithin
    refine addRange_fails (fun j h1 h2 => ?_) s
    have hcovers : v.Covers j := ⟨h1, by omega⟩
    refine (Vary.valueAt_fails hcovers).mono ?_
    rintro _ ⟨rfl, hlong⟩
    exact .endless (by omega) (by omega) hlong

/-- **The schedule of a script fails for one of its ranges.** -/
theorem ofOperations_fails (ops : List (Operation Float)) (n : Int) :
    OnlyFails (fun f => ∃ v, .vary v ∈ ops ∧ v.Misses n f) (ofOperations ops n) := by
  refine OnlyFails.foldlM (fun v hv s => (add_fails n s v).mono fun f hf => ⟨v, ?_, hf⟩) _
  obtain ⟨op, hop, hvary⟩ := List.mem_filterMap.1 hv
  cases op with
  | vary w =>
    obtain rfl := Option.some.inj hvary
    exact hop
  | _ => cases hvary

end KnobSchedule

namespace AnimationConfig

/-- **A script has no length when knobs vary over a number of frames that is missing.** -/
theorem ofOperations_fails {α : Type} (ops : List (Operation α)) (name : String) :
    OnlyFails (fun f => f = .missingFrameCount ∧ (∃ v, .vary v ∈ ops) ∧
      (scan ops).frameCount ≤ 0) (ofOperations ops name) := by
  unfold ofOperations
  dsimp only
  split
  · rename_i h
    exact .error ⟨rfl, (scan_spec ops).2.2.1 h.1, h.2⟩
  · exact .ok _

end AnimationConfig

end Flipbook
