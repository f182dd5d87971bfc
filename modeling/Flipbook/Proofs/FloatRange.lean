import Flipbook.Numeric.Scalar
import Mathlib.Algebra.Group.Nat.Defs
import Mathlib.Algebra.Order.Group.Int
import Mathlib.Tactic.Common

/-!
# The range of floats

Whole numbers below `2 ^ 1023` are within the range of floats (`FloatRange.le_of_ofInteger?`).
Rounding bounds the exponent of what it returns (`FloatRange.within_roundWithAccuracy`), a float
whose exponent is small enough is packed with a small field of its exponent
(`FloatRange.field_pack`), and only the greatest field says that a float is infinite or no number.
-/

namespace Flipbook

namespace FloatRange

open Float.Model Float.Model.UnpackedFloat

/-- The float is zero, or has a mantissa and an exponent of at most `E`. -/
def Within (E : Int) : UnpackedFloat → Prop
  | .zero _ => True
  | .finite _ _ e _ => e ≤ E
  | _ => False

/-! ### Rounding -/

theorem mantissa_shift (em : ExtendedMantissa) (k : Nat) :
    (em >>> k).mantissa = em.mantissa / 2 ^ k := by
  induction k with
  | zero => simp [HShiftRight.hShiftRight, Nat.repeat]
  | succ k ih =>
    change (em >>> k).mantissa / 2 = _
    rw [ih, Nat.div_div_eq_div_mul, Nat.pow_succ]

theorem roundedMantissa_le (em : ExtendedMantissa) : em.roundedMantissa ≤ em.mantissa + 1 := by
  obtain ⟨m, r, s⟩ := em
  cases r <;> cases s <;>
    simp only [ExtendedMantissa.roundedMantissa, ExtendedMantissa.accuracy,
      Accuracy.roundToNearestEven] <;> omega

theorem log2_le_of_le_two_pow {m k : Nat} (h : m ≤ 2 ^ k) : m.log2 ≤ k := by
  rcases Nat.eq_zero_or_pos m with rfl | hm
  · simp
  · have hlt : m < 2 ^ (k + 1) := by rw [Nat.pow_succ]; omega
    have := (Nat.log2_lt (by omega)).2 hlt
    omega

/-- How far a mantissa is shifted. -/
def shiftOf (m : Nat) (e : Int) : Nat := (max (m.log2 + 1 + e - 53) (-1074) - e).toNat

theorem shiftToTargetExponent_eq (m : Nat) (e : Int) :
    (shiftToTargetExponent .binary64 m e .exact).1.mantissa = m / 2 ^ shiftOf m e ∧
      (shiftToTargetExponent .binary64 m e .exact).2 = e + shiftOf m e := by
  refine ⟨?_, rfl⟩
  simp only [shiftToTargetExponent, shiftToExponent, mantissa_shift]
  rfl

theorem roundedMantissa_shift_le {m k : Nat} (e : Int) (hm : m < 2 ^ k) :
    (shiftToTargetExponent .binary64 m e .exact).1.roundedMantissa ≤ 2 ^ (k - shiftOf m e) := by
  have hle := roundedMantissa_le (shiftToTargetExponent .binary64 m e .exact).1
  rw [(shiftToTargetExponent_eq m e).1] at hle
  have hlt : m / 2 ^ shiftOf m e < 2 ^ (k - shiftOf m e) := by
    rw [Nat.div_lt_iff_lt_mul (Nat.two_pow_pos _), ← Nat.pow_add]
    exact hm.trans_le (Nat.pow_le_pow_right (by decide) (by omega))
  omega

/-- The exponent stays within its bound if it does so in both shifts, that before and that after
rounding. -/
theorem within_of_roundedMantissa {m : Nat} {e E : Int} (s : Sign) (hE : -1074 ≤ E)
    (hshift : e + shiftOf m e ≤ E)
    (hrounded : (shiftToTargetExponent .binary64 m e .exact).1.roundedMantissa.log2 + 1 +
      (e + shiftOf m e) ≤ E + 53) : Within E (roundWithAccuracy .binary64 s m e .exact) := by
  have hexponent := (shiftToTargetExponent_eq m e).2
  generalize hr : (shiftToTargetExponent .binary64 m e .exact).1.roundedMantissa = r at hrounded
  have hfinal : (shiftToTargetExponent .binary64 r (e + shiftOf m e) .exact).2 ≤ E := by
    rw [(shiftToTargetExponent_eq _ _).2]
    generalize e + (shiftOf m e : Int) = e' at hshift hrounded
    unfold shiftOf
    omega
  unfold roundWithAccuracy
  dsimp only
  rw [hr, hexponent]
  by_cases hzero : (shiftToTargetExponent .binary64 r (e + shiftOf m e) .exact).1.mantissa = 0
  · rw [dif_pos hzero]
    trivial
  · rw [dif_neg hzero]
    exact hfinal

/-- **Rounding a number below `2 ^ (k + e)` keeps the exponent within its bound.** -/
theorem within_roundWithAccuracy {m k : Nat} {e E : Int} (s : Sign) (hm : m < 2 ^ k)
    (he : e ≤ E) (hk : k + e ≤ E + 52) (hE : -1074 ≤ E) :
    Within E (roundWithAccuracy .binary64 s m e .exact) := by
  have hlog := log2_le_of_le_two_pow hm.le
  have hrounded := log2_le_of_le_two_pow (roundedMantissa_shift_le e hm)
  have hshift : e + shiftOf m e ≤ E := by
    unfold shiftOf
    omega
  refine within_of_roundedMantissa s hE hshift ?_
  unfold shiftOf at hrounded hshift ⊢
  omega

/-! ### Bits -/

/-- The bits of a float. -/
abbrev bits (x : Float) : BitVec Format.binary64.numBits := x.toModel.toBits.toBitVec

/-- The field of the exponent. -/
def field (b : BitVec Format.binary64.numBits) : Nat := (unpackExponent b).toNat

/-- **A float with a small exponent is packed with a small field.** -/
theorem field_pack {u : UnpackedFloat} {E : Int} (h : Within E u) (hE : -1074 ≤ E)
    (hE' : E ≤ 971) : (field (UnpackedFloat.pack .binary64 u) : Int) ≤ E + 1075 := by
  have hbias : Format.binary64.exponentBias = 1023 := rfl
  unfold field UnpackedFloat.pack
  cases u with
  | infinity | notANumber => exact h.elim
  | zero s =>
    dsimp only
    rw [packedZero, unpackExponent_packComponents]
    change ((0 : Nat) : Int) ≤ E + 1075
    omega
  | finite s m e hm =>
    replace h : e ≤ E := h
    dsimp only
    rw [hbias]
    split
    · omega
    split
    · rw [unpackExponent_packComponents, BitVec.toNat_ofNat]
      omega
    · rw [unpackExponent_packComponents, BitVec.toNat_zero]
      omega

theorem field_pack_lt {u : UnpackedFloat} (h : Within 971 u) :
    field (UnpackedFloat.pack .binary64 u) < 2047 := by
  have hfield := field_pack h (by decide) (by decide)
  omega

/-- **What bits with a small field say is a small float.** -/
theorem unpack_of_field {b : BitVec Format.binary64.numBits} (h : field b < 2047) :
    (∃ s, UnpackedFloat.unpack .binary64 b = .zero s) ∨
      ∃ s m e hm, UnpackedFloat.unpack .binary64 b = .finite s m e hm ∧ m < 2 ^ 53 ∧
        e ≤ max (field b) 1 - 1075 := by
  have hmantissa : (unpackMantissa b).toNat < 2 ^ 52 := (unpackMantissa b).isLt
  have hbias : Format.binary64.exponentBias = 1023 := rfl
  have hfield : unpackExponent b ≠ -1#_ := by
    intro heq
    rw [field, heq] at h
    exact absurd h (by decide)
  unfold UnpackedFloat.unpack
  dsimp only
  rw [if_neg hfield, hbias]
  by_cases hexponent : unpackExponent b = 0#_
  · have hnone : (unpackExponent b).toNat = 0 := congrArg BitVec.toNat hexponent
    rw [if_pos hexponent]
    by_cases hzero : unpackMantissa b = 0#_
    · rw [dif_pos hzero]
      exact .inl ⟨_, rfl⟩
    · rw [dif_neg hzero]
      have hpos : 0 < (unpackMantissa b).toNat :=
        Nat.pos_of_ne_zero fun hnone => hzero (BitVec.eq_of_toNat_eq hnone)
      refine .inr ⟨_, _, _, hpos, rfl, by omega, ?_⟩
      unfold field
      omega
  · rw [if_neg hexponent]
    have hpos : 0 < (1#1 ++ unpackMantissa b).toNat := by
      rw [BitVec.toNat_append]
      simp
    refine .inr ⟨_, _, _, hpos, rfl, (1#1 ++ unpackMantissa b).isLt, ?_⟩
    unfold field
    omega

theorem field_bits (x : Float) : field (bits x) = (x.toBits.toNat >>> 52) % (1 <<< 11) := by
  unfold field unpackExponent
  rw [BitVec.toNat_cast, BitVec.extractLsb_toNat]
  rfl

theorem isFinite_read {x : Float} (h : field (bits x) < 2047) :
    (Numeric.Binary64.read x).isFinite = true := by
  rw [field_bits] at h
  unfold Numeric.Binary64.read Numeric.Binary64.ofFields
  simp only [Nat.ne_of_lt h, ↓reduceIte]
  split <;> rfl

/-! ### Whole numbers -/

/-- The number one. -/
def one : Float := Float.ofBits 0x3FF0000000000000

/-- A float that is multiplied by one is rounded once more, and stays about as small as it was. -/
theorem within_mul_one {b : BitVec Format.binary64.numBits} {E : Int} (hb : field b < 2047)
    (hE : field b ≤ E + 1075) (hE' : -1074 ≤ E) :
    Within (E + 1) (UnpackedFloat.mul .binary64 (UnpackedFloat.unpack .binary64 b)
      one.toModel.unpack) := by
  obtain ⟨h, hone⟩ : ∃ h, one.toModel.unpack = .finite .positive (2 ^ 52) (-52) h := ⟨_, rfl⟩
  rw [hone]
  rcases unpack_of_field hb with ⟨s, hzero⟩ | ⟨s, m, e, hm, hfinite, hlt, he⟩
  · rw [hzero]
    trivial
  · rw [hfinite]
    have hproduct : m * 2 ^ 52 < 2 ^ 105 := by omega
    exact within_roundWithAccuracy _ hproduct (by omega) (by omega) (by omega)

theorem within_round {m k : Nat} {E : Int} (s : Sign) (hm : m < 2 ^ k) (hk : k ≤ E + 52)
    (hE : 0 ≤ E) : Within E (UnpackedFloat.round .binary64 s m 0) := by
  have hshift (j : Nat) : m <<< j < 2 ^ (k + j) := by
    rw [Nat.shiftLeft_eq, Nat.pow_add]
    exact Nat.mul_lt_mul_of_pos_right hm (Nat.two_pow_pos j)
  simp only [UnpackedFloat.round, decreaseExponent]
  exact within_roundWithAccuracy s (hshift _) (by omega) (by omega) (by omega)

theorem within_ofUInt64 (n : UInt64) : Within 12 (UnpackedFloat.ofUInt64 .binary64 n) := by
  have hn : n.toNat < 2 ^ 64 := n.toNat_lt
  unfold UnpackedFloat.ofUInt64 UnpackedFloat.ofNat UnpackedFloat.ofInt
    UnpackedFloat.normalize
  split
  · exact within_round (k := 64) _ (by omega) (by omega) (by omega)
  · trivial
  · exact within_round (k := 64) _ (by omega) (by omega) (by omega)

theorem ofScientific_eq {n : Nat} (hn : n ≠ 0) : UnpackedFloat.ofScientific .binary64 n 0 =
    roundWithAccuracy .binary64 .positive (n * 2 ^ 53) (-53) .exact := by
  have hpower : (2 : Int) ^ Format.binary64.exponentBits = 2048 := rfl
  have hbits : Format.binary64.mantissaBits = 53 := rfl
  unfold UnpackedFloat.ofScientific
  rw [hpower, dif_neg hn, if_neg (by omega), if_neg (by omega), if_pos le_rfl]
  unfold UnpackedFloat.mul
  dsimp only
  rw [hbits, Int.toNat_zero, Nat.pow_zero, Nat.mul_one, Nat.shiftLeft_eq]
  rfl

theorem within_ofScientific {n k : Nat} {E : Int} (hn : n < 2 ^ k) (hk : k ≤ E + 52)
    (hE : 0 ≤ E) : Within E (UnpackedFloat.ofScientific .binary64 n 0) := by
  by_cases hzero : n = 0
  · subst hzero
    trivial
  · have hshift : n * 2 ^ 53 < 2 ^ (k + 53) := by
      rw [Nat.pow_add]
      exact Nat.mul_lt_mul_of_pos_right hn (Nat.two_pow_pos 53)
    rw [ofScientific_eq hzero]
    exact within_roundWithAccuracy _ hshift (by omega) (by omega) (by omega)

theorem ofNat_eq (n : Nat) : Float.ofNat n =
    if n < 2 ^ 53 then n.toUInt64.toFloat * one else .ofModel (.ofScientific n 0) := by
  change Float.ofScientific n false 0 = _
  unfold Float.ofScientific
  by_cases hn : n < 2 ^ 53
  · rw [dif_pos ⟨hn, by decide⟩, if_pos hn]
    rfl
  · rw [dif_neg fun h => hn h.1, if_neg hn]
    rfl

theorem field_ofNat_of_within {n : Nat}
    (h : Within 971 (UnpackedFloat.ofScientific .binary64 n 0)) :
    field (bits (.ofNat n)) < 2047 := by
  rw [ofNat_eq]
  split
  · have hbits : bits n.toUInt64.toFloat = UnpackedFloat.pack .binary64 (.ofUInt64 .binary64 _) :=
      rfl
    have hsmall := field_pack (within_ofUInt64 n.toUInt64) (by decide) (by decide)
    rw [← hbits] at hsmall
    have hproduct : bits (n.toUInt64.toFloat * one) = UnpackedFloat.pack .binary64
        (.mul .binary64 (.unpack .binary64 (bits n.toUInt64.toFloat)) one.toModel.unpack) := rfl
    have hfield := field_pack (within_mul_one (by omega) hsmall (by decide)) (by decide) (by decide)
    rw [hproduct]
    omega
  · have hbits : bits (.ofModel (.ofScientific n 0)) =
        UnpackedFloat.pack .binary64 (.ofScientific .binary64 n 0) := rfl
    rw [hbits]
    exact field_pack_lt h

/-- Whole numbers below `2 ^ 1023` have a small field as floats. -/
theorem field_ofNat {n : Nat} (h : n < 2 ^ 1023) : field (bits (.ofNat n)) < 2047 :=
  field_ofNat_of_within (within_ofScientific h (by decide) (by decide))

/-- **A whole number that is not negative and is no float is at least `2 ^ 1023`.** -/
theorem le_of_ofInteger? {n : Int} (hn : 0 ≤ n)
    (h : (OfInteger.ofInteger? n : Option Float) = none) : 2 ^ 1023 ≤ n := by
  obtain ⟨n, rfl⟩ := Int.eq_ofNat_of_zero_le hn
  have hpower : ((2 ^ 1023 : Nat) : Int) = 2 ^ 1023 := by
    rw [Int.natCast_pow, Int.cast_ofNat_Int]
  rw [← hpower, Int.ofNat_le]
  by_contra hlt
  have hfinite := isFinite_read (field_ofNat (Nat.lt_of_not_le hlt))
  have hsome : (OfInteger.ofInteger? (n : Int) : Option Float) = some (.ofNat n) := if_pos hfinite
  rw [hsome] at h
  cases h

end FloatRange

end Flipbook
