import Flipbook.Script.Operation
import Mathlib.Algebra.Order.Group.Int
import Mathlib.Data.List.Basic
import Mathlib.Tactic.Common

/-!
# How coordinate systems nest

`push` and `pop` are brackets in a flat sequence of operations.  A bracket that is opened at `p`
is closed at `q` (`Nesting.Matched`) when what stands between them is balanced.  An operation is
enclosed before position `k` (`Nesting.EnclosedBefore`) when it stands between two matching
brackets of which the closing one comes before `k`.

A machine that works on a stack sees of this only the level, the number of brackets that are open.
`Nesting.enclosedBefore_iff` says what enclosing means for it: the level has fallen below the one
at which the operation stands.
-/

namespace Flipbook

namespace Operation

variable {α : Type}

/-- The operation enters a coordinate system. -/
def isPush : Operation α → Bool
  | push => true
  | _ => false

/-- The operation leaves a coordinate system. -/
def isPop : Operation α → Bool
  | pop => true
  | _ => false

theorem isPush_iff {op : Operation α} : op.isPush = true ↔ op = .push := by
  cases op <;> simp [isPush]

theorem isPop_iff {op : Operation α} : op.isPop = true ↔ op = .pop := by
  cases op <;> simp [isPop]

end Operation

namespace Nesting

variable {α : Type} (ops : List (Operation α))

/-- How often a coordinate system is entered. -/
def pushes : Nat := ops.countP Operation.isPush

/-- How often a coordinate system is left. -/
def pops : Nat := ops.countP Operation.isPop

/-- Every system that is entered is left, and only what was entered is left. -/
def Balanced : Prop :=
  pushes ops = pops ops ∧ ∀ n < ops.length, pops (ops.take n) ≤ pushes (ops.take n)

instance : Decidable (Balanced ops) := inferInstanceAs (Decidable (_ ∧ _))

/-- The system that is entered at `p` is left at `q`. -/
def Matched (p q : Nat) : Prop :=
  ops[p]?.any Operation.isPush = true ∧ ops[q]?.any Operation.isPop = true ∧ p < q ∧
    Balanced ((ops.take q).drop (p + 1))

instance (p q : Nat) : Decidable (Matched ops p q) := inferInstanceAs (Decidable (_ ∧ _))

/-- The operation at `i` stands between the entrance and the exit of a system that has been left
before position `k`. -/
def EnclosedBefore (k i : Nat) : Prop := ∃ q < k, ∃ p < i, i < q ∧ Matched ops p q

instance (k i : Nat) : Decidable (EnclosedBefore ops k i) :=
  inferInstanceAs (Decidable (∃ q < k, _))

/-- No system is left before position `k` that was not entered. -/
def SoundBefore (k : Nat) : Prop := ∀ m ≤ k, pops (ops.take m) ≤ pushes (ops.take m)

/-- The number of systems that are open before position `k`, negative after too many exits. -/
def level (k : Nat) : Int := pushes (ops.take k) - pops (ops.take k)

variable {ops}

@[simp] theorem level_zero : level ops 0 = 0 := rfl

theorem soundBefore_zero : SoundBefore ops 0 := by
  intro m hm
  obtain rfl := Nat.le_zero.1 hm
  exact Nat.le_refl _

theorem soundBefore_iff {k : Nat} : SoundBefore ops k ↔ ∀ m ≤ k, 0 ≤ level ops m := by
  unfold SoundBefore level
  refine forall₂_congr fun m _ => ?_
  omega

theorem soundBefore_succ_iff {k : Nat} :
    SoundBefore ops (k + 1) ↔ SoundBefore ops k ∧ 0 ≤ level ops (k + 1) := by
  rw [soundBefore_iff, soundBefore_iff]
  constructor
  · exact fun h => ⟨fun m hm => h m (by omega), h (k + 1) le_rfl⟩
  · rintro ⟨h, hk⟩ m hm
    rcases Nat.lt_or_ge k m with hlt | hge
    · obtain rfl : m = k + 1 := by omega
      exact hk
    · exact h m hge

/-! ### The level from position to position -/

theorem level_succ {k : Nat} {op : Operation α} (h : ops[k]? = some op) :
    level ops (k + 1) =
      level ops k + (if op.isPush then 1 else 0) - (if op.isPop then 1 else 0) := by
  simp only [level, pushes, pops, List.take_add_one, h, Option.toList, List.countP_append,
    List.countP_singleton]
  cases op.isPush <;> cases op.isPop <;> simp <;> omega

theorem level_succ_of_push {k : Nat} (h : ops[k]? = some .push) :
    level ops (k + 1) = level ops k + 1 := by
  rw [level_succ h]; simp [Operation.isPush, Operation.isPop]

theorem level_succ_of_pop {k : Nat} (h : ops[k]? = some .pop) :
    level ops (k + 1) = level ops k - 1 := by
  rw [level_succ h]; simp [Operation.isPush, Operation.isPop]

theorem level_succ_of_neither {k : Nat} {op : Operation α} (h : ops[k]? = some op)
    (hpush : op.isPush = false) (hpop : op.isPop = false) : level ops (k + 1) = level ops k := by
  rw [level_succ h]; simp [hpush, hpop]

theorem level_succ_of_none {k : Nat} (h : ops[k]? = none) : level ops (k + 1) = level ops k := by
  simp only [level, List.take_add_one, h, Option.toList, List.append_nil]

theorem push_of_level_lt {k : Nat} (h : level ops k < level ops (k + 1)) :
    ops[k]? = some .push := by
  cases hop : ops[k]? with
  | none => rw [level_succ_of_none hop] at h; omega
  | some op =>
    rw [level_succ hop] at h
    cases hp : op.isPush
    · rw [hp] at h; simp at h; split at h <;> omega
    · rw [Operation.isPush_iff.1 hp]

theorem pop_of_lt_level {k : Nat} (h : level ops (k + 1) < level ops k) : ops[k]? = some .pop := by
  cases hop : ops[k]? with
  | none => rw [level_succ_of_none hop] at h; omega
  | some op =>
    rw [level_succ hop] at h
    cases hp : op.isPop
    · rw [hp] at h; simp at h; split at h <;> omega
    · rw [Operation.isPop_iff.1 hp]

/-! ### Matching brackets and levels -/

variable (ops) in
/-- What a piece of the sequence opens and closes is the difference of the levels at its ends. -/
theorem level_slice {a b : Nat} (h : a ≤ b) :
    (pushes ((ops.take b).drop a) : Int) - pops ((ops.take b).drop a) =
      level ops b - level ops a := by
  have split : ops.take b = ops.take a ++ (ops.take b).drop a := by
    conv_lhs => rw [← List.take_append_drop a (ops.take b)]
    rw [List.take_take, Nat.min_eq_left h]
  have hu := congrArg pushes split
  have ho := congrArg pops split
  simp only [pushes, pops, List.countP_append] at hu ho
  simp only [level, pushes, pops]
  omega

theorem balanced_slice_iff {a b : Nat} (hab : a ≤ b) (hb : b ≤ ops.length) :
    Balanced ((ops.take b).drop a) ↔
      level ops b = level ops a ∧ ∀ m, a ≤ m → m ≤ b → level ops a ≤ level ops m := by
  have hlen : ((ops.take b).drop a).length = b - a := by
    rw [List.length_drop, List.length_take, Nat.min_eq_left hb]
  -- a beginning of the slice is a slice from the same place
  have hslice : ∀ n ≤ b - a, ((ops.take b).drop a).take n = (ops.take (a + n)).drop a := by
    intro n hn
    rw [List.take_drop, List.take_take, Nat.min_eq_left (by omega)]
  have hends := level_slice ops hab
  unfold Balanced
  rw [hlen]
  constructor
  · rintro ⟨heq, hle⟩
    have hb' : level ops b = level ops a := by omega
    refine ⟨hb', fun m ham hmb => ?_⟩
    rcases Nat.lt_or_ge m b with hm | hm
    · have hm' := hle (m - a) (by omega)
      rw [hslice _ (by omega), Nat.add_sub_cancel' ham] at hm'
      have := level_slice ops ham
      omega
    · obtain rfl : m = b := by omega
      omega
  · rintro ⟨heq, hle⟩
    refine ⟨by omega, fun n hn => ?_⟩
    rw [hslice n (by omega)]
    have := level_slice ops (Nat.le_add_right a n)
    have := hle (a + n) (by omega) (by omega)
    omega

theorem matched_iff {p q : Nat} :
    Matched ops p q ↔ ops[p]? = some .push ∧ ops[q]? = some .pop ∧ p < q ∧
      level ops q = level ops (p + 1) ∧
      ∀ m, p + 1 ≤ m → m ≤ q → level ops (p + 1) ≤ level ops m := by
  unfold Matched
  have entered : ops[p]?.any Operation.isPush = true ↔ ops[p]? = some .push := by
    cases ops[p]? <;> simp [Operation.isPush_iff]
  have left : ops[q]?.any Operation.isPop = true ↔ ops[q]? = some .pop := by
    cases ops[q]? <;> simp [Operation.isPop_iff]
  rw [entered, left]
  refine and_congr_right fun _ => and_congr_right fun hq => and_congr_right fun hpq => ?_
  exact balanced_slice_iff hpq (List.getElem?_eq_some_iff.1 hq).1.le

/-- Before a value is reached from below there is a last place at which it is not reached. -/
theorem exists_last_lt {f : Nat → Int} {v : Int} {i : Nat} (h0 : f 0 < v) (hi : v ≤ f i) :
    ∃ p < i, f p < v ∧ ∀ m, p < m → m ≤ i → v ≤ f m := by
  induction i with
  | zero => omega
  | succ i ih =>
    rcases Int.lt_or_le (f i) v with h | h
    · -- `i` is the last place at which `v` is not reached
      refine ⟨i, by omega, h, fun m h1 h2 => ?_⟩
      obtain rfl : m = i + 1 := by omega
      exact hi
    · obtain ⟨p, hp, hpv, hm⟩ := ih h
      refine ⟨p, by omega, hpv, fun m h1 h2 => ?_⟩
      rcases Nat.lt_or_ge i m with hlt | hge
      · obtain rfl : m = i + 1 := by omega
        exact hi
      · exact hm m h1 hge

theorem exists_first_lt {f : Nat → Int} {v : Int} {i d : Nat} (hi : v ≤ f i)
    (hd : f (i + d) < v) :
    ∃ q, i ≤ q ∧ q < i + d ∧ f (q + 1) < v ∧ ∀ m, i ≤ m → m ≤ q → v ≤ f m := by
  induction d generalizing i with
  | zero => rw [Nat.add_zero] at hd; omega
  | succ d ih =>
    rcases Int.lt_or_le (f (i + 1)) v with h | h
    · -- the value is lost in the very next place
      refine ⟨i, Nat.le_refl i, by omega, h, fun m h1 h2 => ?_⟩
      obtain rfl : m = i := by omega
      exact hi
    · rw [show i + (d + 1) = i + 1 + d by omega] at hd ⊢
      obtain ⟨q, h1, h2, h3, h4⟩ := ih h hd
      refine ⟨q, by omega, h2, h3, fun m hm hq => ?_⟩
      rcases Nat.eq_or_lt_of_le hm with rfl | hlt
      · exact hi
      · exact h4 m hlt hq

/-- **Enclosed operations are those below whose level the sequence has fallen.**  The brackets
around the operation are the last entrance to its level and the first exit from it. -/
theorem enclosedBefore_iff {k i : Nat} {op : Operation α} (hs : SoundBefore ops k)
    (hop : ops[i]? = some op) (hpush : op.isPush = false) (hpop : op.isPop = false) :
    EnclosedBefore ops k i ↔ ∃ m, i < m ∧ m ≤ k ∧ level ops m < level ops i := by
  rw [soundBefore_iff] at hs
  constructor
  · rintro ⟨q, hqk, p, hpi, hiq, hm⟩
    obtain ⟨hp, hq, -, hlevel, hinside⟩ := matched_iff.1 hm
    -- the exit leads below every level between the brackets
    refine ⟨q + 1, by omega, hqk, ?_⟩
    have := level_succ_of_pop hq
    have := hinside i hpi hiq.le
    omega
  · rintro ⟨m, him, hmk, hlt⟩
    obtain ⟨d, rfl⟩ := Nat.exists_eq_add_of_le him.le
    -- the closing bracket is where the level first falls below that of `i`
    obtain ⟨q, hiq, hqm, hfall, hkept⟩ := exists_first_lt (f := level ops) le_rfl hlt
    have hq : ops[q]? = some .pop :=
      pop_of_lt_level (by have := hkept q hiq le_rfl; omega)
    have hqlevel := level_succ_of_pop hq
    have hne : i ≠ q := by
      rintro rfl
      rw [hop] at hq
      obtain rfl := Option.some.inj hq
      simp [Operation.isPop] at hpop
    -- the opening bracket is where it last rises to that of `i`, since it starts at zero
    obtain ⟨p, hpi, hplevel, hclimb⟩ := exists_last_lt (f := level ops) (v := level ops i)
      (by have := hs (i + d) hmk; rw [level_zero]; omega) le_rfl
    have hp : ops[p]? = some .push :=
      push_of_level_lt (by have := hclimb (p + 1) (by omega) hpi; omega)
    have hprise := level_succ_of_push hp
    have hp1 := hclimb (p + 1) (by omega) hpi
    have hqkeep := hkept q hiq le_rfl
    refine ⟨q, by omega, p, hpi, by omega, matched_iff.2 ⟨hp, hq, by omega, by omega, ?_⟩⟩
    intro n hn1 hn2
    rcases Nat.le_total n i with h | h
    · have := hclimb n hn1 h; omega
    · have := hkept n h hn2; omega

end Nesting

end Flipbook
