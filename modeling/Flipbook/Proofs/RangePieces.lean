import Flipbook.Proofs.RefusedRanges
import Mathlib.Algebra.Order.Field.Basic
import Mathlib.Algebra.Order.Field.Rat
import Mathlib.Order.Interval.Set.Defs
import Mathlib.Tactic.FieldSimp
import Mathlib.Tactic.Linarith
import Mathlib.Tactic.Ring

/-!
# Ranges in pieces

A range is divided into as many parts as it has frames, so its end value is not that of its last
frame: it would be reached one frame later (`Vary.level_end`).  That is what lets ranges follow one
another.  In exact arithmetic a range can be cut after any of its frames, and the two pieces, the
first of which heads for the value that the second one starts with, put into a schedule what the
range puts into it (`KnobSchedule.ofOperations_pieces`).  Of ranges that hand over to one another
(`Vary.Chained`) every frame has one entry, and from each frame to the next the knob goes on as the
range of the first of the two says, also where the next range begins
(`KnobSchedule.exists_ofOperations_chained`).
-/

namespace Flipbook

/-- Rational numbers take whole numbers as they are. -/
instance : OfInteger ℚ := ⟨fun n => some n⟩

namespace Vary

variable {v : Vary ℚ}

/-- What the value grows by from one frame to the next. -/
def growth (v : Vary ℚ) : ℚ := (v.endValue - v.startValue) / (v.endFrame - v.startFrame + 1)

/-- The value in a frame, of the range or not. -/
def level (v : Vary ℚ) (j : Int) : ℚ := v.startValue + v.growth * (j - v.startFrame)

theorem parts_pos (h : v.startFrame ≤ v.endFrame) : (0 : ℚ) < v.endFrame - v.startFrame + 1 := by
  have : (v.startFrame : ℚ) ≤ v.endFrame := by exact_mod_cast h
  linarith

/-- **In exact arithmetic the value in a frame is its level.** -/
theorem valueAt_eq_level (h : v.startFrame ≤ v.endFrame) (j : Int) :
    v.valueAt j = .ok (v.level j) := by
  have hparts : v.endFrame - v.startFrame + 1 ≠ 0 := by omega
  simp only [valueAt, OfInteger.ofInteger?, if_neg hparts]
  refine congrArg Except.ok ?_
  push_cast
  rw [level, growth]
  ring

theorem level_start (v : Vary ℚ) : v.level v.startFrame = v.startValue := by
  rw [level, sub_self, mul_zero, add_zero]

theorem level_add (v : Vary ℚ) (i j : Int) : v.level (i + j) = v.level i + v.growth * j := by
  unfold level
  push_cast
  ring

theorem level_succ (v : Vary ℚ) (j : Int) : v.level (j + 1) = v.level j + v.growth := by
  rw [level_add, Int.cast_one, mul_one]

theorem level_end (h : v.startFrame ≤ v.endFrame) : v.level (v.endFrame + 1) = v.endValue := by
  have hparts := (parts_pos h).ne'
  have hpassed : ((v.endFrame + 1 : Int) : ℚ) - v.startFrame = v.endFrame - v.startFrame + 1 := by
    push_cast
    ring
  rw [level, growth, hpassed, div_mul_cancel₀ _ hparts]
  ring

theorem level_of (v : Vary ℚ) (i j : Int) : v.level j = v.level i + v.growth * (j - i) := by
  have hsum := v.level_add i (j - i)
  rw [add_sub_cancel] at hsum
  rw [hsum]
  push_cast
  rfl

theorem growth_pos (h : v.startFrame ≤ v.endFrame) (hv : v.startValue < v.endValue) :
    0 < v.growth :=
  div_pos (by linarith) (parts_pos h)

theorem growth_neg (h : v.startFrame ≤ v.endFrame) (hv : v.endValue < v.startValue) :
    v.growth < 0 :=
  div_neg_of_neg_of_pos (by linarith) (parts_pos h)

/-- The end value is reached nowhere else, unless it is the start value. -/
theorem eq_of_level_eq_end (h : v.startFrame ≤ v.endFrame) (hv : v.startValue ≠ v.endValue)
    {j : Int} (hj : v.level j = v.endValue) : j = v.endFrame + 1 := by
  have hgrowth : v.growth ≠ 0 := by
    rcases lt_or_gt_of_ne hv with hlt | hgt
    · exact (growth_pos h hlt).ne'
    · exact (growth_neg h hgt).ne
  rw [v.level_of (v.endFrame + 1) j, level_end h, add_eq_left, mul_eq_zero] at hj
  have hframe := sub_eq_zero.1 (hj.resolve_left hgrowth)
  exact_mod_cast hframe

/-- **In the frames of the range the value lies between the two ends**, and the end value is left
out. -/
theorem level_mem {j : Int} (hj : v.Covers j) :
    (v.startValue < v.endValue → v.level j ∈ Set.Ico v.startValue v.endValue) ∧
    (v.endValue < v.startValue → v.level j ∈ Set.Ioc v.endValue v.startValue) ∧
    (v.startValue = v.endValue → v.level j = v.endValue) := by
  have h : v.startFrame ≤ v.endFrame := hj.1.trans hj.2
  have hpassed : (0 : ℚ) ≤ j - v.startFrame := by
    have : (v.startFrame : ℚ) ≤ j := by exact_mod_cast hj.1
    linarith
  have hleft : (0 : ℚ) < (v.endFrame + 1 : Int) - j := by
    have : (j : ℚ) ≤ v.endFrame := by exact_mod_cast hj.2
    push_cast
    linarith
  have hstart := v.level_of v.startFrame j
  have hend := v.level_of j (v.endFrame + 1)
  rw [v.level_start] at hstart
  rw [level_end h] at hend
  refine ⟨fun hv => ⟨?_, ?_⟩, fun hv => ⟨?_, ?_⟩, fun hv => ?_⟩
  · have := mul_nonneg (growth_pos h hv).le hpassed
    linarith
  · have := mul_pos (growth_pos h hv) hleft
    linarith
  · have := mul_neg_of_neg_of_pos (growth_neg h hv) hleft
    linarith
  · have := mul_nonpos_of_nonpos_of_nonneg (growth_neg h hv).le hpassed
    linarith
  · rw [level, growth, hv, sub_self, zero_div, zero_mul, add_zero]

/-! ### Cutting a range -/

/-- The piece of a range up to a frame.  It heads for the value that the range has one frame
later. -/
def upTo (v : Vary ℚ) (m : Int) : Vary ℚ := { v with endFrame := m, endValue := v.level (m + 1) }

/-- The piece of a range after a frame. -/
def after (v : Vary ℚ) (m : Int) : Vary ℚ :=
  { v with startFrame := m + 1, startValue := v.level (m + 1) }

theorem growth_upTo {m : Int} (h : v.startFrame ≤ m) : (v.upTo m).growth = v.growth := by
  have hparts := (parts_pos (v := v.upTo m) h).ne'
  have hgrown := v.level_of v.startFrame (m + 1)
  rw [v.level_start] at hgrown
  rw [growth, div_eq_iff hparts]
  change v.level (m + 1) - v.startValue = v.growth * (m - v.startFrame + 1)
  rw [hgrown]
  push_cast
  ring

theorem growth_after {m : Int} (h : v.startFrame ≤ v.endFrame) (hm : m < v.endFrame) :
    (v.after m).growth = v.growth := by
  have hforward : (v.after m).startFrame ≤ (v.after m).endFrame := by
    change m + 1 ≤ v.endFrame
    omega
  have hgrown := v.level_of (m + 1) (v.endFrame + 1)
  rw [level_end h] at hgrown
  rw [growth, div_eq_iff (parts_pos hforward).ne']
  change v.endValue - v.level (m + 1) = v.growth * (v.endFrame - (m + 1 : Int) + 1)
  rw [hgrown]
  push_cast
  ring

/-- **The pieces have the values of the range.** -/
theorem level_upTo {m : Int} (h : v.startFrame ≤ m) (j : Int) : (v.upTo m).level j = v.level j := by
  rw [level, growth_upTo h]
  rfl

theorem level_after {m : Int} (h : v.startFrame ≤ v.endFrame) (hm : m < v.endFrame) (j : Int) :
    (v.after m).level j = v.level j := by
  rw [level, growth_after h hm]
  exact (v.level_of (m + 1) j).symm

end Vary

namespace KnobSchedule

/-! ### Building from pieces -/

section Build

variable {α : Type} [Add α] [Sub α] [Mul α] [Div α] [OfInteger α]

theorem addRange_append (v : Vary α) (first : Int) (a b : Nat) (s : KnobSchedule α) :
    addRange v first (a + b) s = addRange v first a s >>= addRange v (first + a) b := by
  induction a generalizing first s with
  | zero =>
    rw [Nat.zero_add, addRange]
    change _ = addRange v (first + (0 : Nat)) b s
    rw [Nat.cast_zero, add_zero]
  | succ a ih =>
    rw [show a + 1 + b = a + b + 1 by omega, addRange, addRange]
    cases v.valueAt first with
    | error f => rfl
    | ok x =>
      have hfirst : first + 1 + (a : Int) = first + (a + 1 : Nat) := by omega
      rw [← hfirst]
      exact ih (first + 1) _

theorem addRange_congr {v w : Vary α} {first : Int} {count : Nat} (hknob : v.knob = w.knob)
    (hvalue : ∀ j, first ≤ j → j < first + count → v.valueAt j = w.valueAt j)
    (s : KnobSchedule α) : addRange v first count s = addRange w first count s := by
  induction count generalizing first s with
  | zero => rfl
  | succ count ih =>
    rw [addRange, addRange, hvalue first le_rfl (by omega), hknob]
    cases w.valueAt first with
    | error f => rfl
    | ok x => exact ih (fun j h1 h2 => hvalue j (by omega) (by omega)) _

theorem add_of_within {n : Int} {v : Vary α} (h : ¬v.Refused n) (s : KnobSchedule α) :
    add n s v = addRange v v.startFrame (v.endFrame + 1 - v.startFrame).toNat s := if_neg h

end Build

/-! ### Cutting a range of a script -/

section Cut

variable {n m : Int} {v : Vary ℚ}

theorem refused_iff_pieces (h : v.startFrame ≤ m) (hm : m < v.endFrame) :
    v.Refused n ↔ (v.upTo m).Refused n ∨ (v.after m).Refused n := by
  change v.startFrame < 0 ∨ n ≤ v.endFrame ↔
    (v.startFrame < 0 ∨ n ≤ m) ∨ m + 1 < 0 ∨ n ≤ v.endFrame
  omega

theorem add_pieces (h : v.startFrame ≤ m) (hm : m < v.endFrame) (hv : ¬v.Refused n)
    (s : KnobSchedule ℚ) :
    add n s v = add n s (v.upTo m) >>= fun s => add n s (v.after m) := by
  have hpieces := mt (refused_iff_pieces h hm).2 hv
  rw [not_or] at hpieces
  have hforward : v.startFrame ≤ v.endFrame := by omega
  have hcount : (v.endFrame + 1 - v.startFrame).toNat =
      (m + 1 - v.startFrame).toNat + (v.endFrame + 1 - (m + 1)).toNat := by omega
  have hfirst : v.startFrame + ((m + 1 - v.startFrame).toNat : Int) = m + 1 := by omega
  rw [add_of_within hv, hcount, addRange_append, hfirst, add_of_within hpieces.1]
  refine congr (congrArg Bind.bind ?_) (funext fun s => ?_)
  · have hvalue (j : Int) : v.valueAt j = (v.upTo m).valueAt j := by
      rw [Vary.valueAt_eq_level hforward, Vary.valueAt_eq_level (v := v.upTo m) h,
        Vary.level_upTo h]
    have hknob : v.knob = (v.upTo m).knob := rfl
    exact addRange_congr hknob (fun j _ _ => hvalue j) s
  · have hlater : (v.after m).startFrame ≤ (v.after m).endFrame := by
      change m + 1 ≤ v.endFrame
      omega
    have hvalue (j : Int) : v.valueAt j = (v.after m).valueAt j := by
      rw [Vary.valueAt_eq_level hforward, Vary.valueAt_eq_level hlater,
        Vary.level_after hforward hm]
    have hknob : v.knob = (v.after m).knob := rfl
    rw [add_of_within hpieces.2]
    exact addRange_congr hknob (fun j _ _ => hvalue j) s

/-- The pieces of a range that is refused are not added both. -/
theorem add_pieces_of_refused (h : v.startFrame ≤ m) (hm : m < v.endFrame) (hv : v.Refused n)
    (s : KnobSchedule ℚ) :
    ∃ f, (add n s (v.upTo m) >>= fun s => add n s (v.after m)) = .error f := by
  cases hfirst : add n s (v.upTo m) with
  | error f => exact ⟨f, rfl⟩
  | ok s' =>
    rcases (refused_iff_pieces h hm).1 hv with hrefused | hrefused
    · rw [add_of_refused hrefused] at hfirst
      cases hfirst
    · exact ⟨_, add_of_refused hrefused s'⟩

/-- **A script has the same schedule with a range and with its two pieces**, or has none with
either. -/
theorem ofOperations_pieces (h : v.startFrame ≤ m) (hm : m < v.endFrame)
    (before after : List (Operation ℚ)) (n : Int) :
    (ofOperations (before ++ .vary v :: after) n).toOption =
      (ofOperations (before ++ .vary (v.upTo m) :: .vary (v.after m) :: after) n).toOption := by
  have hwhole : varies (before ++ .vary v :: after) = varies before ++ v :: varies after := by
    simp only [varies, List.filterMap_append, List.filterMap_cons]
  have hpieces : varies (before ++ .vary (v.upTo m) :: .vary (v.after m) :: after) =
      varies before ++ v.upTo m :: v.after m :: varies after := by
    simp only [varies, List.filterMap_append, List.filterMap_cons]
  rw [ofOperations, ofOperations, hwhole, hpieces, List.foldlM_append, List.foldlM_append]
  cases (varies before).foldlM (add n) (empty n) with
  | error f => rfl
  | ok s =>
    change (add n s v >>= fun s => (varies after).foldlM (add n) s).toOption =
      (add n s (v.upTo m) >>= fun s => add n s (v.after m) >>= fun s =>
        (varies after).foldlM (add n) s).toOption
    by_cases hv : v.Refused n
    · obtain ⟨f, hf⟩ := add_pieces_of_refused h hm hv s
      rw [add_of_refused hv, ← bind_assoc, hf]
      rfl
    · rw [add_pieces h hm hv, bind_assoc]

end Cut

/-! ### Schedules in exact arithmetic -/

theorem add_fails_exact (n : Int) (s : KnobSchedule ℚ) (v : Vary ℚ) :
    OnlyFails (fun _ => v.Refused n) (add n s v) := by
  by_cases hv : v.Refused n
  · exact fun f _ => hv
  · rw [add_of_within hv]
    refine addRange_fails (fun j h1 h2 => ?_) s
    rw [Vary.valueAt_eq_level (by omega)]
    exact .ok _

theorem exists_ofOperations {ops : List (Operation ℚ)} {n : Int}
    (h : ∀ v ∈ varies ops, ¬v.Refused n) : ∃ s, ofOperations ops n = .ok s := by
  have hfails : OnlyFails (fun _ => ∃ v ∈ varies ops, v.Refused n) (ofOperations ops n) :=
    OnlyFails.foldlM (fun v hv s => (add_fails_exact n s v).mono fun _ hr => ⟨v, hv, hr⟩) _
  cases hs : ofOperations ops n with
  | ok s => exact ⟨s, rfl⟩
  | error f =>
    obtain ⟨v, hv, hrefused⟩ := hfails f hs
    exact absurd hrefused (h v hv)

theorem Lists.entriesAt_eq {n : Int} {vs : List (Vary ℚ)} {s : KnobSchedule ℚ} (h : Lists n vs s)
    {j : Nat} (hj : j < n) : s.entriesAt j =
      .ok ((vs.filter (·.Covers j)).map fun w => (w.knob, w.level j)).toArray := by
  obtain ⟨es, hes, hvalues⟩ := h.entriesAt hj
  have hlevels : (vs.filter (·.Covers j)).mapM (·.entryAt j) =
      .ok ((vs.filter (·.Covers j)).map fun w => (w.knob, w.level j)) := by
    refine mapM_eq_of_forall₂ (List.forall₂_map_right_iff.2 (List.forall₂_same.2 fun w hw => ?_))
    have hcovers : w.Covers j := of_decide_eq_true (List.mem_filter.1 hw).2
    rw [Vary.entryAt, Vary.valueAt_eq_level (hcovers.1.trans hcovers.2)]
    rfl
  rw [hes, ← Except.ok.inj (hvalues.symm.trans hlevels)]

end KnobSchedule

/-! ### Ranges that hand over -/

namespace Vary

/-- The second range begins where the first one ends: it is one of the same knob, starts in the
next frame and with the value that the first one heads for. -/
structure HandsOver (a b : Vary ℚ) : Prop where
  knob : b.knob = a.knob
  frame : b.startFrame = a.endFrame + 1
  value : b.startValue = a.endValue

/-- The last frame of ranges that follow one another. -/
def lastFrame (v : Vary ℚ) : List (Vary ℚ) → Int
  | [] => v.endFrame
  | b :: rest => lastFrame b rest

/-- The ranges run forwards and each of them hands over to the next. -/
structure Chained (vs : List (Vary ℚ)) : Prop where
  forward : ∀ w ∈ vs, w.startFrame ≤ w.endFrame
  joints : List.IsChain HandsOver vs

namespace Chained

variable {v b : Vary ℚ} {rest : List (Vary ℚ)} {j : Int}

theorem tail (h : Chained (v :: b :: rest)) : Chained (b :: rest) where
  forward w hw := h.forward w (List.mem_cons_of_mem v hw)
  joints := (List.isChain_cons_cons.1 h.joints).2

theorem joint (h : Chained (v :: b :: rest)) : HandsOver v b :=
  (List.isChain_cons_cons.1 h.joints).1

theorem le_lastFrame (h : Chained (v :: rest)) : v.endFrame ≤ lastFrame v rest := by
  induction rest generalizing v with
  | nil => exact le_rfl
  | cons b rest ih =>
    have hb := h.tail.forward b List.mem_cons_self
    have hframe := h.joint.frame
    have hlast := ih h.tail
    rw [lastFrame]
    omega

theorem later (h : Chained (v :: rest)) {w : Vary ℚ} (hw : w ∈ rest) :
    v.endFrame < w.startFrame ∧ w.knob = v.knob := by
  induction rest generalizing v with
  | nil => cases hw
  | cons b rest ih =>
    have hb := h.tail.forward b List.mem_cons_self
    have hframe := h.joint.frame
    rcases List.mem_cons.1 hw with rfl | hw
    · exact ⟨by omega, h.joint.knob⟩
    · obtain ⟨hstart, hknob⟩ := ih h.tail hw
      exact ⟨by omega, hknob.trans h.joint.knob⟩

theorem knob_eq (h : Chained (v :: rest)) {w : Vary ℚ} (hw : w ∈ v :: rest) :
    w.knob = v.knob := by
  rcases List.mem_cons.1 hw with rfl | hw
  · rfl
  · exact (h.later hw).2

theorem filter_first (h : Chained (v :: rest)) (hj : v.Covers j) :
    (v :: rest).filter (·.Covers j) = [v] := by
  have hnone : rest.filter (·.Covers j) = [] := by
    refine List.filter_eq_nil_iff.2 fun w hw hcovers => ?_
    have hlater := (h.later hw).1
    have hstart := (of_decide_eq_true hcovers).1
    have hend := hj.2
    omega
  rw [List.filter_cons_of_pos (by simpa using hj), hnone]

/-- **Every frame is in one range, and the next frame has the value that this range goes on to**,
whichever range it is in. -/
theorem filter_covers (h : Chained (v :: rest)) (hstart : v.startFrame ≤ j)
    (hend : j ≤ lastFrame v rest) : ∃ w ∈ v :: rest, w.Covers j ∧
      (v :: rest).filter (·.Covers j) = [w] ∧
      (j < lastFrame v rest → ∃ w' ∈ v :: rest,
        (v :: rest).filter (·.Covers (j + 1)) = [w'] ∧ w'.level (j + 1) = w.level (j + 1)) := by
  induction rest generalizing v with
  | nil =>
    have hcovers : v.Covers j := ⟨hstart, hend⟩
    refine ⟨v, List.mem_cons_self, hcovers, h.filter_first hcovers, fun hlt => ?_⟩
    have hnext : v.Covers (j + 1) := ⟨by omega, hlt⟩
    exact ⟨v, List.mem_cons_self, h.filter_first hnext, rfl⟩
  | cons b rest ih =>
    have hframe := h.joint.frame
    have hb := h.tail.forward b List.mem_cons_self
    by_cases hj : j ≤ v.endFrame
    · have hcovers : v.Covers j := ⟨hstart, hj⟩
      refine ⟨v, List.mem_cons_self, hcovers, h.filter_first hcovers, fun _ => ?_⟩
      by_cases hlast : j + 1 ≤ v.endFrame
      · have hnext : v.Covers (j + 1) := ⟨by omega, hlast⟩
        exact ⟨v, List.mem_cons_self, h.filter_first hnext, rfl⟩
      · -- the second range takes over, and starts with the value that the first one heads for
        have hnext : b.Covers (j + 1) := ⟨by omega, by omega⟩
        have hleft : ¬v.Covers (j + 1) := fun hcovers => hlast hcovers.2
        refine ⟨b, List.mem_cons_of_mem v List.mem_cons_self, ?_, ?_⟩
        · rw [List.filter_cons_of_neg (by simpa using hleft), h.tail.filter_first hnext]
        · rw [show j + 1 = b.startFrame by omega, b.level_start, h.joint.value, hframe,
            level_end (h.forward v List.mem_cons_self)]
    · obtain ⟨w, hw, hcovers, hfilter, hnext⟩ := ih h.tail (by omega) hend
      have hleft (i : Int) (hi : j ≤ i) : ¬v.Covers i := fun hcovers => by
        have := hcovers.2
        omega
      refine ⟨w, List.mem_cons_of_mem v hw, hcovers, ?_, fun hlt => ?_⟩
      · rw [List.filter_cons_of_neg (by simpa using hleft j le_rfl), hfilter]
      · obtain ⟨w', hw', hfilter', hvalue⟩ := hnext hlt
        refine ⟨w', List.mem_cons_of_mem v hw', ?_, hvalue⟩
        rw [List.filter_cons_of_neg (by simpa using hleft (j + 1) (by omega)), hfilter']

theorem between (h : Chained (v :: rest)) {w : Vary ℚ} (hw : w ∈ v :: rest) :
    v.startFrame ≤ w.startFrame ∧ w.endFrame ≤ lastFrame v rest := by
  induction rest generalizing v with
  | nil =>
    obtain rfl := List.mem_singleton.1 hw
    exact ⟨le_rfl, le_rfl⟩
  | cons b rest ih =>
    rcases List.mem_cons.1 hw with rfl | hw
    · exact ⟨le_rfl, h.le_lastFrame⟩
    · have hv := h.forward v List.mem_cons_self
      have hframe := h.joint.frame
      obtain ⟨hstart, hend⟩ := ih h.tail hw
      exact ⟨by omega, hend⟩

end Chained

end Vary

namespace KnobSchedule

/-- A schedule of ranges that follow one another has one entry in each of their frames, and in the
next frame the value that it goes on to. -/
theorem exists_ofOperations_chained {v : Vary ℚ} {rest : List (Vary ℚ)}
    (h : Vary.Chained (v :: rest)) {n : Int} (hstart : 0 ≤ v.startFrame)
    (hend : Vary.lastFrame v rest < n) :
    ∃ s, ofOperations ((v :: rest).map .vary) n = .ok s ∧
      ∀ j : Nat, v.startFrame ≤ j → j ≤ Vary.lastFrame v rest →
        ∃ w ∈ v :: rest, w.Covers j ∧ s.entriesAt j = .ok #[(v.knob, w.level j)] ∧
          (j < Vary.lastFrame v rest →
            s.entriesAt (j + 1) = .ok #[(v.knob, w.level j + w.growth)]) := by
  have hvaries : varies ((v :: rest).map .vary) = v :: rest := by
    rw [varies, List.filterMap_map]
    exact List.filterMap_some
  have hexists : ∃ s, ofOperations ((v :: rest).map .vary) n = .ok s :=
    exists_ofOperations fun w hw => by
      rw [hvaries] at hw
      obtain ⟨hfirst, hlast⟩ := h.between hw
      unfold Vary.Refused
      omega
  obtain ⟨s, hs⟩ := hexists
  have hlists := lists_ofOperations hs
  rw [hvaries] at hlists
  refine ⟨s, hs, fun j hj hj' => ?_⟩
  obtain ⟨w, hw, hcovers, hfilter, hnext⟩ := h.filter_covers hj hj'
  refine ⟨w, hw, hcovers, ?_, fun hlt => ?_⟩
  · rw [hlists.entriesAt_eq (by omega), hfilter, ← h.knob_eq hw]
    rfl
  · obtain ⟨w', hw', hfilter', hvalue⟩ := hnext hlt
    have hentries := hlists.entriesAt_eq (j := j + 1) (by omega)
    rw [Nat.cast_add_one, hfilter'] at hentries
    rw [hentries, ← Vary.level_succ, ← hvalue, ← h.knob_eq hw']
    rfl

/-- **A range can be cut anywhere, and ranges that hand over follow one another without a seam.**
The values of a range start at the one end, grow by equal steps and would be at the other end one
frame after the last; so the pieces of a range, the first of which heads for the value that the
second one starts with, put the same entries into a schedule as the range. -/
theorem cut_without_seam (v : Vary ℚ) (h : v.startFrame ≤ v.endFrame) :
    (∀ j, v.valueAt j = .ok (v.level j)) ∧
    (∀ n, 0 ≤ v.startFrame → v.endFrame < n → ∃ s, ofOperations [.vary v] n = .ok s ∧
      ∀ j : Nat, j < n →
        s.entriesAt j = .ok (if v.Covers j then #[(v.knob, v.level j)] else #[])) ∧
    v.level v.startFrame = v.startValue ∧
    (∀ j, v.level (j + 1) = v.level j +
      (v.endValue - v.startValue) / (v.endFrame - v.startFrame + 1)) ∧
    (∀ j, v.Covers j →
      (v.startValue < v.endValue → v.level j ∈ Set.Ico v.startValue v.endValue) ∧
      (v.endValue < v.startValue → v.level j ∈ Set.Ioc v.endValue v.startValue) ∧
      (v.startValue = v.endValue → v.level j = v.endValue)) ∧
    v.level (v.endFrame + 1) = v.endValue ∧
    (v.startValue ≠ v.endValue → ∀ j, v.level j = v.endValue → j = v.endFrame + 1) ∧
    (∀ m, v.startFrame ≤ m → m < v.endFrame → ∀ before after n,
      let w := v.level (m + 1)
      (ofOperations (before ++ .vary v :: after) n).toOption =
        (ofOperations (before ++ .vary { v with endFrame := m, endValue := w } ::
          .vary { v with startFrame := m + 1, startValue := w } :: after) n).toOption) ∧
    ∀ rest, Vary.Chained (v :: rest) → ∀ n, 0 ≤ v.startFrame → Vary.lastFrame v rest < n →
      ∃ s, ofOperations ((v :: rest).map .vary) n = .ok s ∧
        ∀ j : Nat, v.startFrame ≤ j → j ≤ Vary.lastFrame v rest →
          ∃ w ∈ v :: rest, w.Covers j ∧ s.entriesAt j = .ok #[(v.knob, w.level j)] ∧
            (j < Vary.lastFrame v rest →
              s.entriesAt (j + 1) = .ok #[(v.knob, w.level j + w.growth)]) := by
  refine ⟨Vary.valueAt_eq_level h, fun n hstart hend => ?_, v.level_start, v.level_succ,
    fun j hj => Vary.level_mem hj, Vary.level_end h, fun hv j => Vary.eq_of_level_eq_end h hv,
    fun m hm hm' before after n => ofOperations_pieces hm hm' before after n,
    fun rest hrest n hstart hend => exists_ofOperations_chained hrest hstart hend⟩
  have hexists : ∃ s, ofOperations [.vary v] n = .ok s := exists_ofOperations fun w hw => by
    obtain rfl := List.mem_singleton.1 hw
    unfold Vary.Refused
    omega
  obtain ⟨s, hs⟩ := hexists
  refine ⟨s, hs, fun j hj => ?_⟩
  have hlists : Lists n [v] s := lists_ofOperations hs
  rw [hlists.entriesAt_eq hj]
  by_cases hcovers : v.Covers j <;> simp [hcovers]

/-- A range up to eight that is cut in its middle, and one that takes over from it and goes down. -/
theorem cut_without_seam_up_and_down :
    let up : Vary ℚ := ⟨"turn", 0, 3, 0, 8⟩
    let down : Vary ℚ := ⟨"turn", 4, 5, 8, 2⟩
    up.startFrame ≤ up.endFrame ∧ up.Covers 3 ∧ up.level 3 ∈ Set.Ico 0 8 ∧
      (ofOperations [.vary up] 4).toOption =
        (ofOperations [.vary ⟨"turn", 0, 1, 0, 4⟩, .vary ⟨"turn", 2, 3, 4, 8⟩] 4).toOption ∧
      Vary.Chained [up, down] ∧
      ∃ s, ofOperations [.vary up, .vary down] 6 = .ok s ∧
        s.entriesAt 3 = .ok #[("turn", 6)] ∧ s.entriesAt 4 = .ok #[("turn", 8)] := by
  intro up down
  have hlevel : up.level 2 = 4 := by norm_num [Vary.level, Vary.growth, up]
  have hlast : up.level 3 = 6 := by norm_num [Vary.level, Vary.growth, up]
  have hgrowth : up.growth = 2 := by norm_num [Vary.growth, up]
  have hcovers : up.Covers 3 := by decide
  have hchained : Vary.Chained [up, down] := by
    refine ⟨fun w hw => ?_, List.isChain_cons_cons.2 ⟨⟨rfl, rfl, rfl⟩, .singleton _⟩⟩
    rcases List.mem_cons.1 hw with rfl | hw
    · decide
    · obtain rfl := List.mem_singleton.1 hw
      decide
  obtain ⟨-, -, -, -, hbetween, -, -, hcut, hchain⟩ := cut_without_seam up (by decide)
  have hpieces := hcut 1 (by decide) (by decide) [] [] 4
  dsimp only [List.nil_append] at hpieces
  rw [show (1 : Int) + 1 = 2 from rfl, hlevel] at hpieces
  obtain ⟨s, hs, hentries⟩ := hchain [down] hchained 6 (by decide) (by decide)
  obtain ⟨w, hw, hown, hentry, hnext⟩ := hentries 3 (by decide) (by decide)
  -- the fourth frame is one of the first range
  obtain rfl : w = up := by
    rcases List.mem_cons.1 hw with rfl | hw
    · rfl
    · obtain rfl := List.mem_singleton.1 hw
      exact absurd hown.1 (by decide)
  have hthird : s.entriesAt 3 = .ok #[("turn", up.level 3)] := hentry
  have hfourth : s.entriesAt 4 = .ok #[("turn", up.level 3 + up.growth)] := hnext (by decide)
  refine ⟨by decide, hcovers, (hbetween 3 hcovers).1 (by decide), hpieces, hchained, s, hs, ?_, ?_⟩
  · rw [hthird, hlast]
  · rw [hfourth, hlast, hgrowth]
    norm_num

end KnobSchedule

end Flipbook
