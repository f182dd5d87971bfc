import Flipbook.Proofs.DepthOrder
import Flipbook.Proofs.FieldKinds
import Flipbook.Proofs.WholeFloats
import Mathlib.Tactic.Linarith

/-!
# When two scalars are one key

Floats are equal exactly when they have the same value, for mantissa and exponent of a float are
determined by it (`FloatRank.rank?_eq_iff`).  So every scalar can be given a key such that two
scalars count as one key exactly when theirs are equal (`Scalar.sameKey_iff`): being one key is an
equivalence, across the kinds of numbers as well.
-/

namespace Flipbook

/-! ### The reading of a float and its parts -/

namespace Numeric.Binary64

open Float.Model Float.Model.UnpackedFloat FloatRange

/-- The sign is that of numbers below zero. -/
def isMinus : Sign → Bool
  | .negative => true
  | .positive => false

/-- What the parts of an unpacked float say. -/
def ofUnpacked : UnpackedFloat → Binary64
  | .notANumber => nan
  | .infinity s => infinite (isMinus s)
  | .zero s => finite (isMinus s) 0 (-1074)
  | .finite s m e _ => finite (isMinus s) m e

theorem isMinus_ofBitVec (b : BitVec 1) : isMinus (.ofBitVec b) = (b.toNat == 1) := by
  revert b
  decide

theorem isMinus_bits (x : Float) : isMinus (.ofBitVec (unpackSign (bits x))) =
    ((x.toBits.toNat >>> 63) == 1) := by
  have hlt : x.toBits.toNat >>> 63 < 2 := by
    rw [Nat.shiftRight_eq_div_pow]
    have := x.toBits.toNat_lt
    omega
  have hsign : (unpackSign (bits x)).toNat = x.toBits.toNat >>> 63 % 2 :=
    BitVec.extractLsb_toNat 63 63 (bits x)
  rw [isMinus_ofBitVec, hsign, Nat.mod_eq_of_lt hlt]

theorem fraction_bits (x : Float) :
    (unpackMantissa (bits x)).toNat = x.toBits.toNat % (1 <<< 52) :=
  BitVec.extractLsb_toNat 51 0 (bits x)

/-- **A float is read as it is unpacked.** -/
theorem read_eq (x : Float) : read x = ofUnpacked x.toModel.unpack := by
  have hbias : Format.binary64.exponentBias = 1023 := rfl
  have hnone : unpackMantissa (bits x) = 0#_ ↔ (unpackMantissa (bits x)).toNat = 0 :=
    BitVec.toNat_inj.symm
  change _ = ofUnpacked (UnpackedFloat.unpack .binary64 (bits x))
  unfold read ofFields UnpackedFloat.unpack
  dsimp only
  rw [← isMinus_bits, ← field_bits, ← fraction_bits, hbias]
  by_cases hlast : unpackExponent (bits x) = -1#_
  · have hfield : field (bits x) = 2047 := congrArg BitVec.toNat hlast
    rw [if_pos hlast, if_pos hfield]
    by_cases hm : unpackMantissa (bits x) = 0#_
    · rw [if_pos hm, if_pos (hnone.1 hm)]
      rfl
    · rw [if_neg hm, if_neg (mt hnone.2 hm)]
      rfl
  have hfield : field (bits x) ≠ 2047 := fun heq => hlast (BitVec.eq_of_toNat_eq heq)
  rw [if_neg hlast, if_neg hfield]
  by_cases hfirst : unpackExponent (bits x) = 0#_
  · have hexponent : (unpackExponent (bits x)).toNat = 0 := congrArg BitVec.toNat hfirst
    have hfield : field (bits x) = 0 := hexponent
    rw [if_pos hfirst, if_pos hfield]
    by_cases hm : unpackMantissa (bits x) = 0#_
    · rw [dif_pos hm, hnone.1 hm]
      rfl
    · rw [dif_neg hm, hexponent]
      rfl
  · -- the mantissa has one bit more than the fraction
    have hfield : field (bits x) ≠ 0 := fun heq => hfirst (BitVec.eq_of_toNat_eq heq)
    have himplicit : (1#1 ++ unpackMantissa (bits x)).toNat =
        (1 <<< 52) + (unpackMantissa (bits x)).toNat := by
      rw [BitVec.toNat_append]
      exact (Nat.shiftLeft_add_eq_or_of_lt (unpackMantissa (bits x)).isLt 1).symm
    rw [if_neg hfirst, if_neg hfield]
    change _ = finite _ (1#1 ++ unpackMantissa (bits x)).toNat _
    rw [himplicit]
    rfl

end Numeric.Binary64

/-! ### The parts of a float and its value -/

namespace FloatRange

open Numeric.Binary64

theorem Normal.exponent_le {m m' : Nat} {e e' : Int} (h : Normal m e) (h' : Normal m' e')
    (hvalue : (m : ℚ) * 2 ^ e = m' * 2 ^ e') : e' ≤ e := by
  by_contra hlt
  obtain ⟨k, rfl⟩ : ∃ k : Nat, e' = e + (k + 1 : Nat) := ⟨(e' - e - 1).toNat, by omega⟩
  have hpower : (2 : ℚ) ^ e ≠ 0 := by positivity
  have hm : m = m' * 2 ^ (k + 1) := by
    rw [zpow_add₀ two_ne_zero, zpow_natCast, mul_left_comm, mul_comm (2 ^ e)] at hvalue
    exact_mod_cast mul_right_cancel₀ hpower hvalue
  -- the greater exponent is not the least, so its mantissa is long and the other one too long
  have hlong : 2 ^ 52 ≤ m' := h'.long.resolve_right (by have := h.least_le; omega)
  have hshort := h.lt
  rw [hm, pow_succ] at hshort
  have hpos : 0 < 2 ^ k := Nat.two_pow_pos k
  have hproduct := Nat.mul_le_mul hlong (show 2 ≤ 2 ^ k * 2 by omega)
  omega

theorem Normal.eq {m m' : Nat} {e e' : Int} (h : Normal m e) (h' : Normal m' e')
    (hvalue : (m : ℚ) * 2 ^ e = m' * 2 ^ e') : m = m' ∧ e = e' := by
  obtain rfl : e = e' := le_antisymm (h'.exponent_le h hvalue.symm) (h.exponent_le h' hvalue)
  have hpower : (2 : ℚ) ^ e ≠ 0 := by positivity
  exact ⟨by exact_mod_cast mul_right_cancel₀ hpower hvalue, rfl⟩

/-- **The value of a float says what its parts are**, but for the sign of zero. -/
theorem Normal.value?_eq_iff {m m' : Nat} {e e' : Int} (h : Normal m e) (h' : Normal m' e')
    (negative negative' : Bool) :
    (finite negative m e).value? = (finite negative' m' e').value? ↔
      m = m' ∧ e = e' ∧ (negative = negative' ∨ m = 0) := by
  have hpower : 0 < (2 : ℚ) ^ e := by positivity
  have hnonneg : 0 ≤ (m : ℚ) * 2 ^ e := by positivity
  have hnonneg' : 0 ≤ (m' : ℚ) * 2 ^ e' := by positivity
  have habs (b : Bool) {q : ℚ} (hq : 0 ≤ q) : |if b then -q else q| = q := by
    cases b <;> simp [abs_of_nonneg hq]
  rw [value?, value?, Option.some.injEq]
  constructor
  · intro hvalue
    have hmagnitude : (m : ℚ) * 2 ^ e = m' * 2 ^ e' := by
      rw [← habs negative hnonneg, hvalue, habs negative' hnonneg']
    obtain ⟨rfl, rfl⟩ := h.eq h' hmagnitude
    refine ⟨rfl, rfl, ?_⟩
    by_cases hsign : negative = negative'
    · exact .inl hsign
    · -- a number that is equal to its opposite is zero
      rw [Bool.eq_not_iff.2 (Ne.symm hsign)] at hvalue
      have hzero : (m : ℚ) * 2 ^ e = 0 := by
        cases negative <;>
          simp only [Bool.not_true, Bool.not_false, Bool.false_eq_true, ↓reduceIte] at hvalue <;>
          linarith
      exact .inr (by exact_mod_cast (mul_eq_zero_iff_right hpower.ne').1 hzero)
  · rintro ⟨rfl, rfl, rfl | rfl⟩
    · rfl
    · simp

end FloatRange

/-! ### Keys -/

namespace Scalar

/-- What tells keys apart: the kind and the value, where numbers are of one kind. -/
inductive Key
  | null
  | number (q : ℚ)
  | infinite (negative : Bool)
  | nan
  | str (s : String)
  | bytes (data : List UInt8)
  | date (d : Date)
  /-- A moment by the clock. -/
  | clock (m : Moment)
  /-- A moment of universal time. -/
  | instant (micros : Int)

/-- The key of a float by its reading. -/
def keyOfReading : Numeric.Binary64 → Key
  | .nan => .nan
  | .infinite negative => .infinite negative
  | .finite negative m e => .number (if negative then -(m * 2 ^ e) else m * 2 ^ e)

theorem keyOfReading_eq_number_iff (b : Numeric.Binary64) (q : ℚ) :
    keyOfReading b = .number q ↔ b.value? = some q := by
  cases b <;> simp [keyOfReading, Numeric.Binary64.value?]

/-- The key of a scalar. -/
def key : Scalar → Key
  | null => .null
  | bool b => .number (if b then 1 else 0)
  | int n => .number n
  | float x => keyOfReading (.read x)
  | str s => .str s
  | bytes data => .bytes data
  | date d => .date d
  | moment m => if m.offset.isSome then .instant m.instant else .clock m

end Scalar

namespace FloatRank

open Numeric Float.Model

/-- The rank of a float by its reading. -/
def ofReading? : Binary64 → Option Rank
  | .nan => none
  | .infinite negative => some (toLex (if negative then -2 else 2, toLex (0, 0)))
  | .finite negative m e =>
    some (if m = 0 then toLex (0, toLex (0, 0))
      else if negative then toLex (-1, toLex (-e, -m)) else toLex (1, toLex (e, m)))

theorem rank?_eq (x : Float) : rank? x = ofReading? (.read x) := by
  rw [rank?, Binary64.read_eq]
  cases x.toModel.unpack with
  | notANumber => rfl
  | zero s => rfl
  | infinity s => cases s <;> rfl
  | finite s m e hpos =>
    cases s with
    | negative => exact congrArg some ((if_neg hpos.ne').trans (if_pos rfl)).symm
    | positive => exact congrArg some ((if_neg hpos.ne').trans (if_neg Bool.false_ne_true)).symm

/-- Finite floats of one rank have the same parts, but for the sign of zero. -/
theorem ofReading?_finite_eq_iff {m m' : Nat} {e e' : Int} (h : FloatRange.Normal m e)
    (h' : FloatRange.Normal m' e') (negative negative' : Bool) :
    ofReading? (.finite negative m e) = ofReading? (.finite negative' m' e') ↔
      m = m' ∧ e = e' ∧ (negative = negative' ∨ m = 0) := by
  rw [ofReading?, ofReading?, Option.some.injEq]
  by_cases hm : m = 0
  · subst hm
    by_cases hm' : m' = 0
    · subst hm'
      have he : e = e' := (h.long.resolve_left (by decide)).trans
        (h'.long.resolve_left (by decide)).symm
      simp [he]
    · cases negative' <;> simp [hm', Ne.symm hm']
  · by_cases hm' : m' = 0
    · cases negative <;> simp [hm, hm']
    · cases negative <;> cases negative' <;> simp [hm, hm', and_comm]

theorem ofReading?_finite_ne (negative negative' : Bool) (m : Nat) (e : Int) :
    ofReading? (.finite negative m e) ≠ ofReading? (.infinite negative') := by
  rw [ofReading?, ofReading?, ne_eq, Option.some.injEq]
  by_cases hm : m = 0 <;> cases negative <;> cases negative' <;> simp [hm]

/-- **Two floats have the same rank exactly when they have the same key.** -/
theorem rank?_eq_iff (x y : Float) : rank? x = rank? y ↔
    Scalar.keyOfReading (.read x) = Scalar.keyOfReading (.read y) := by
  rw [rank?_eq, rank?_eq]
  cases hx : Binary64.read x with
  | nan => cases Binary64.read y <;> simp [ofReading?, Scalar.keyOfReading]
  | infinite negative =>
    cases Binary64.read y with
    | nan => simp [ofReading?, Scalar.keyOfReading]
    | infinite negative' => cases negative <;> cases negative' <;>
        simp [ofReading?, Scalar.keyOfReading]
    | finite negative' m' e' =>
      simp [Scalar.keyOfReading, (ofReading?_finite_ne negative' negative m' e').symm]
  | finite negative m e =>
    cases hy : Binary64.read y with
    | nan => simp [ofReading?, Scalar.keyOfReading]
    | infinite negative' => simp [Scalar.keyOfReading, ofReading?_finite_ne]
    | finite negative' m' e' =>
      have hnormal := FloatRange.normal_of_read hx
      have hnormal' := FloatRange.normal_of_read hy
      rw [ofReading?_finite_eq_iff hnormal hnormal', ← hnormal.value?_eq_iff hnormal',
        Binary64.value?, Binary64.value?, Option.some.injEq, Scalar.keyOfReading,
        Scalar.keyOfReading, Scalar.Key.number.injEq]

end FloatRank

namespace Scalar

/-- A scalar that stands for a whole number has the key of that number, and so does a float that is
equal to it. -/
theorem wholeKey?_eq_some_iff {a : Scalar} {n : Int} :
    a.wholeKey? = some n ↔ a.key = .number n := by
  cases a with
  | bool b => cases b <;> simp [wholeKey?, key, eq_comm]
  | int m => simp [wholeKey?, key]
  | float x =>
    rw [wholeKey?, key, keyOfReading_eq_number_iff, Numeric.Binary64.toInt?_eq_some_iff]
  | moment m => simp only [wholeKey?, key]; split <;> simp
  | _ => simp [wholeKey?, key]

theorem sameKey_float (x y : Float) :
    sameKey (.float x) (.float y) = true ↔ key (.float x) = key (.float y) := by
  rw [key, key, ← FloatRank.rank?_eq_iff, sameKey, Bool.or_eq_true, Bool.and_eq_true,
    FloatRank.beq_iff, FloatRank.isNaN_iff, FloatRank.isNaN_iff]
  cases FloatRank.rank? x <;> cases FloatRank.rank? y <;> simp [eq_comm]

theorem sameKey_moment (m n : Moment) :
    sameKey (.moment m) (.moment n) = true ↔ key (.moment m) = key (.moment n) := by
  rw [sameKey, Moment.same, key, key]
  cases hm : m.offset.isSome <;> cases hn : n.offset.isSome
  · simp
  · simpa using fun heq => by simp [heq, hn] at hm
  · simpa using fun heq => by simp [heq, hn] at hm
  · simp

theorem sameKey_int_left (n : Int) (b : Scalar) :
    sameKey (.int n) b = true ↔ b.key = .number n := by
  rw [← wholeKey?_eq_some_iff]
  cases b with
  | float y =>
    simp only [sameKey, wholeKey?]
    cases (Numeric.Binary64.read y).toInt? <;> simp [@eq_comm _ n]
  | _ => simp [sameKey, wholeKey?, @eq_comm _ n]

theorem sameKey_int_right (a : Scalar) (n : Int) :
    sameKey a (.int n) = true ↔ a.key = .number n := by
  rw [← wholeKey?_eq_some_iff]
  cases a with
  | float x =>
    simp only [sameKey, wholeKey?]
    cases (Numeric.Binary64.read x).toInt? <;> simp
  | _ => simp [sameKey, wholeKey?]

theorem sameKey_bool_left (x : Bool) (b : Scalar) :
    sameKey (.bool x) b = sameKey (.int (if x then 1 else 0)) b := by
  cases b <;> rfl

theorem sameKey_bool_right (a : Scalar) (x : Bool) :
    sameKey a (.bool x) = sameKey a (.int (if x then 1 else 0)) := by
  cases a <;> rfl

theorem key_bool (x : Bool) : key (.bool x) = .number ((if x then 1 else 0 : Int) : ℚ) := by
  cases x <;> rfl

/-- The kinds of scalars, of which numbers are one. -/
inductive Kind
  | null
  | number
  | str
  | bytes
  | date
  | moment
  deriving DecidableEq

/-- The kind of a scalar. -/
def kind : Scalar → Kind
  | null => .null
  | bool _ | int _ | float _ => .number
  | str _ => .str
  | bytes _ => .bytes
  | date _ => .date
  | moment _ => .moment

theorem kind_eq_of_sameKey {a b : Scalar} (h : a.sameKey b = true) : a.kind = b.kind := by
  cases a <;> cases b <;> first | rfl | simp [sameKey, wholeKey?] at h

/-- The kind of a key. -/
def Key.kind : Key → Kind
  | null => .null
  | number _ | infinite _ | nan => .number
  | str _ => .str
  | bytes _ => .bytes
  | date _ => .date
  | clock _ | instant _ => .moment

theorem kind_key (a : Scalar) : a.key.kind = a.kind := by
  cases a with
  | float x => rw [key]; cases Numeric.Binary64.read x <;> rfl
  | moment m => rw [key]; split <;> rfl
  | _ => rfl

/-- **Two scalars are one key exactly when their keys are equal.** -/
theorem sameKey_iff {a b : Scalar} : a.sameKey b = true ↔ a.key = b.key := by
  by_cases hkind : a.kind = b.kind
  · cases a with
    | bool x => rw [sameKey_bool_left, sameKey_int_left, key_bool, eq_comm]
    | int n => exact (sameKey_int_left n b).trans eq_comm
    | float x =>
      cases b with
      | bool y => rw [sameKey_bool_right, sameKey_int_right, key_bool]
      | int n => exact sameKey_int_right _ n
      | float y => exact sameKey_float x y
      | _ => cases hkind
    | moment m =>
      cases b with
      | moment n => exact sameKey_moment m n
      | _ => cases hkind
    | null =>
      cases b with
      | null => simp [sameKey]
      | _ => cases hkind
    | str s =>
      cases b with
      | str t => simp [sameKey, key]
      | _ => cases hkind
    | bytes s =>
      cases b with
      | bytes t => simp [sameKey, key]
      | _ => cases hkind
    | date d =>
      cases b with
      | date e => simp [sameKey, key]
      | _ => cases hkind
  · refine iff_of_false (fun h => hkind (kind_eq_of_sameKey h)) fun h => hkind ?_
    rw [← kind_key, ← kind_key, h]

theorem sameKey_eq_false_iff {a b : Scalar} : a.sameKey b = false ↔ a.key ≠ b.key := by
  rw [Bool.eq_false_iff, ne_eq, sameKey_iff]

end Scalar

/-! ### Distinct keys -/

/-- No two entries of the mapping have the same key. -/
def DistinctKeys {β : Type} (fields : List (Scalar × β)) : Prop :=
  fields.Pairwise fun f g => f.1.sameKey g.1 = false

namespace Value

variable {β : Type} {fields fields' : List (Scalar × β)} {key : Scalar} {v : β}

theorem lookup_cons (f : Scalar × β) (fields : List (Scalar × β)) (key : Scalar) :
    lookup (f :: fields) key = if f.1.sameKey key then some f.2 else lookup fields key := by
  rw [lookup, List.find?_cons]
  split <;> simp_all [lookup]

theorem lookup_eq_some_iff (hkeys : DistinctKeys fields) :
    lookup fields key = some v ↔ ∃ k, k.sameKey key = true ∧ (k, v) ∈ fields := by
  refine ⟨mem_of_lookup, ?_⟩
  rintro ⟨k, hsame, hk⟩
  induction fields with
  | nil => cases hk
  | cons f fields ih =>
    obtain ⟨hfirst, hrest⟩ := List.pairwise_cons.1 hkeys
    rw [lookup_cons]
    rcases List.mem_cons.1 hk with rfl | hk
    · exact if_pos hsame
    · have hother : f.1.sameKey key = false := by
        rw [Scalar.sameKey_eq_false_iff, ← Scalar.sameKey_iff.1 hsame]
        exact Scalar.sameKey_eq_false_iff.1 (hfirst (k, v) hk)
      rw [hother]
      exact ih hrest hk

/-- Among distinct keys the order does not matter. -/
theorem lookup_of_perm (hkeys : DistinctKeys fields) (hperm : fields.Perm fields') (key : Scalar) :
    lookup fields key = lookup fields' key := by
  have hkeys' : DistinctKeys fields' := hkeys.perm hperm fun {f g} h => by
    rw [Scalar.sameKey_eq_false_iff] at h ⊢
    exact h.symm
  refine Option.ext fun v => ?_
  simp only [lookup_eq_some_iff hkeys, lookup_eq_some_iff hkeys', hperm.mem_iff]

end Value

end Flipbook
