import Flipbook.Proofs.FloatRange

/-!
# Whole parts of floats

A finite float has a whole part, and the whole part is a float again
(`FloatRange.exists_whole_of_isFinite`): it has no more bits than the float has, and no greater
exponent, so nothing is rounded when it is converted back
(`FloatRange.within_roundWithAccuracy_of_dvd`).
-/

namespace Flipbook

namespace FloatRange

open Float.Model Float.Model.UnpackedFloat Numeric

/-! ### Numbers that need no rounding -/

/-- The bits that a shift drops are all clear when it divides by what divides the mantissa. -/
theorem shift_of_dvd {m k : Nat} (h : 2 ^ k ∣ m) :
    ExtendedMantissa.ofMantissaAndAccuracy m .exact >>> k = ⟨m / 2 ^ k, false, false⟩ := by
  induction k with
  | zero => simp [HShiftRight.hShiftRight, Nat.repeat, ExtendedMantissa.ofMantissaAndAccuracy]
  | succ k ih =>
    have heven : m / 2 ^ k % 2 = 0 := by
      obtain ⟨q, rfl⟩ := h
      rw [Nat.pow_succ, Nat.mul_assoc, Nat.mul_div_cancel_left _ (Nat.two_pow_pos k)]
      exact Nat.mul_mod_right 2 q
    change (ExtendedMantissa.ofMantissaAndAccuracy m .exact >>> k).shiftRightOne = _
    rw [ih (Nat.dvd_trans (Nat.pow_dvd_pow 2 k.le_succ) h), Nat.pow_succ,
      ← Nat.div_div_eq_div_mul]
    simp [ExtendedMantissa.shiftRightOne, heven]

/-- **A number below `2 ^ (k + e)` of which no bits are dropped keeps the exponent within its
bound.**  Only rounding up would need one more. -/
theorem within_roundWithAccuracy_of_dvd {m k : Nat} {e E : Int} (s : Sign) (hpos : 0 < m)
    (hm : m < 2 ^ k) (he : e ≤ E) (hk : k + e ≤ E + 53) (hE : -1074 ≤ E)
    (hdvd : 2 ^ shiftOf m e ∣ m) : Within E (roundWithAccuracy .binary64 s m e .exact) := by
  have hlog : m.log2 < k := (Nat.log2_lt hpos.ne').2 hm
  have hshift : e + shiftOf m e ≤ E := by
    unfold shiftOf
    omega
  have hrounded : (shiftToTargetExponent .binary64 m e .exact).1.roundedMantissa =
      m / 2 ^ shiftOf m e := congrArg ExtendedMantissa.roundedMantissa (shift_of_dvd hdvd)
  have hquotient : 0 < m / 2 ^ shiftOf m e :=
    Nat.div_pos (Nat.le_of_dvd hpos hdvd) (Nat.two_pow_pos _)
  have hlt : m / 2 ^ shiftOf m e < 2 ^ (k - shiftOf m e) := by
    rw [Nat.div_lt_iff_lt_mul (Nat.two_pow_pos _), ← Nat.pow_add]
    exact hm.trans_le (Nat.pow_le_pow_right (by decide) (by omega))
  have hlog' := (Nat.log2_lt hquotient.ne').2 hlt
  refine within_of_roundedMantissa s hE hshift ?_
  rw [hrounded]
  omega

/-! ### Whole numbers with few bits -/

/-- The number has at most 53 bits before its zeros, of which a float has room for. -/
def FewBits (n : Nat) : Prop := ∃ m j, m < 2 ^ 53 ∧ j ≤ 971 ∧ n = m * 2 ^ j

theorem FewBits.of_le {n : Nat} (h : n ≤ 2 ^ 53) : FewBits n := by
  rcases Nat.lt_or_eq_of_le h with hlt | rfl
  · exact ⟨n, 0, hlt, by decide, by omega⟩
  · exact ⟨1, 53, by decide, by decide, rfl⟩

theorem FewBits.within {n : Nat} (h : FewBits n) :
    Within 971 (UnpackedFloat.ofScientific .binary64 n 0) := by
  by_cases hzero : n = 0
  · subst hzero
    trivial
  obtain ⟨m, j, hm, hj, hn⟩ := h
  have hscaled : n * 2 ^ 53 = m * 2 ^ (j + 53) := by rw [hn, Nat.mul_assoc, ← Nat.pow_add]
  have hpos : 0 < n * 2 ^ 53 := by omega
  have hlt : n * 2 ^ 53 < 2 ^ (j + 106) := by
    rw [hscaled, show j + 106 = 53 + (j + 53) by omega, Nat.pow_add 2 53]
    exact Nat.mul_lt_mul_of_pos_right hm (Nat.two_pow_pos _)
  have hshift : shiftOf (n * 2 ^ 53) (-53) ≤ j + 53 := by
    have hlog := (Nat.log2_lt hpos.ne').2 hlt
    unfold shiftOf
    omega
  have hdvd : 2 ^ shiftOf (n * 2 ^ 53) (-53) ∣ n * 2 ^ 53 := by
    conv_rhs => rw [hscaled]
    exact Nat.dvd_trans (Nat.pow_dvd_pow 2 hshift) (Nat.dvd_mul_left _ m)
  rw [ofScientific_eq hzero]
  exact within_roundWithAccuracy_of_dvd _ hpos hlt (by decide) (by omega) (by decide) hdvd

theorem field_neg {x : Float} (h : field (bits x) < 2047) : field (bits x.neg) < 2047 := by
  have hbits : bits x.neg = UnpackedFloat.pack .binary64
    (UnpackedFloat.unpack .binary64 (bits x)).neg := rfl
  have hwithin : Within 971 (UnpackedFloat.unpack .binary64 (bits x)).neg := by
    rcases unpack_of_field h with ⟨s, hzero⟩ | ⟨s, m, e, hm, hfinite, -, he⟩
    · rw [hzero]
      trivial
    · rw [hfinite]
      change e ≤ 971
      omega
  rw [hbits]
  exact field_pack_lt hwithin

theorem isSome_ofInteger? {n : Int} (h : FewBits n.natAbs) :
    (OfInteger.ofInteger? n : Option Float).isSome := by
  have hfield : field (bits (.ofInt n)) < 2047 := by
    cases n with
    | ofNat n => exact field_ofNat_of_within h.within
    | negSucc n => exact field_neg (field_ofNat_of_within h.within)
  have hsome : (OfInteger.ofInteger? n : Option Float) = some (.ofInt n) :=
    if_pos (isFinite_read hfield)
  rw [hsome]
  rfl

/-! ### Whole parts -/

/-- The mantissa and the exponent are those of a float: the mantissa has all its bits unless the
exponent is the least one. -/
structure Normal (m : Nat) (e : Int) : Prop where
  lt : m < 2 ^ 53
  least_le : -1074 ≤ e
  le_greatest : e ≤ 971
  long : 2 ^ 52 ≤ m ∨ e = -1074

theorem normal_of_read {x : Float} {negative : Bool} {m : Nat} {e : Int}
    (h : Binary64.read x = .finite negative m e) : Normal m e := by
  have hfield : (x.toBits.toNat >>> 52) % (1 <<< 11) < 2048 := Nat.mod_lt _ (by decide)
  have hfraction : x.toBits.toNat % (1 <<< 52) < 2 ^ 52 := Nat.mod_lt _ (by decide)
  unfold Binary64.read Binary64.ofFields at h
  dsimp only at h
  generalize (x.toBits.toNat >>> 52) % (1 <<< 11) = k at h hfield
  generalize x.toBits.toNat % (1 <<< 52) = f at h hfraction
  split at h
  · split at h <;> cases h
  split at h
  · cases h
    exact ⟨by omega, le_rfl, by decide, .inr rfl⟩
  · cases h
    exact ⟨by omega, by omega, by omega, .inl (by omega)⟩

theorem field_of_isFinite {x : Float} (h : x.isFinite = true) : field (bits x) < 2047 := by
  have hunpack : x.isFinite = (UnpackedFloat.unpack .binary64 (bits x)).isFinite := rfl
  rw [hunpack] at h
  by_contra hfield
  have hlast : unpackExponent (bits x) = -1#_ := by
    have hlt := (unpackExponent (bits x)).isLt
    unfold field at hfield
    refine BitVec.eq_of_toNat_eq ?_
    change _ = 2047
    change _ < 2048 at hlt
    omega
  unfold UnpackedFloat.unpack at h
  dsimp only at h
  rw [if_pos hlast] at h
  split at h <;> cases h

theorem natAbs_signed (negative : Bool) (n : Nat) : (Binary64.signed negative n).natAbs = n := by
  cases negative <;> simp [Binary64.signed]

theorem fewBits_floor? {x : Float} {n : Int} (h : Floor.floor? x = some n) : FewBits n.natAbs := by
  change (Binary64.read x).floor? = some n at h
  cases hread : Binary64.read x with
  | nan | infinite => rw [hread] at h; cases h
  | finite negative m e =>
    obtain ⟨hm, -, he, -⟩ := normal_of_read hread
    rw [hread] at h
    unfold Binary64.floor? Binary64.cut at h
    cases e with
    | ofNat k =>
      have hk : k ≤ 971 := Int.ofNat_le.1 he
      have hn : n = Binary64.signed negative (m <<< k) := by simpa using h.symm
      exact ⟨m, k, hm, hk, by rw [hn, natAbs_signed, Nat.shiftLeft_eq]⟩
    | negSucc k =>
      have hle : m >>> (k + 1) < 2 ^ 53 := (Nat.shiftRight_le m (k + 1)).trans_lt hm
      dsimp only at h
      generalize m >>> (k + 1) = q at h hle
      refine .of_le ?_
      cases h
      cases negative <;> simp only [Binary64.signed] <;> split <;> omega

/-- **A finite float has a whole part, which is a float again.** -/
theorem exists_whole_of_isFinite {x : Float} (h : x.isFinite = true) :
    ∃ (n : Int) (whole : Float), Floor.floor? x = some n ∧ OfInteger.ofInteger? n = some whole := by
  have hfinite := isFinite_read (field_of_isFinite h)
  obtain ⟨n, hn⟩ : ∃ n, Floor.floor? x = some n := by
    change ∃ n, (Binary64.read x).floor? = some n
    cases hread : Binary64.read x with
    | nan | infinite => rw [hread] at hfinite; cases hfinite
    | finite negative m e => exact ⟨_, rfl⟩
  obtain ⟨whole, hwhole⟩ := Option.isSome_iff_exists.1 (isSome_ofInteger? (fewBits_floor? hn))
  exact ⟨n, whole, hn, hwhole⟩

end FloatRange

end Flipbook
