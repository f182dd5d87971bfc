import Flipbook.Proofs.DocumentFaults
import Flipbook.Proofs.LetterCase
import Mathlib.Algebra.Order.Field.Power
import Mathlib.Algebra.Order.Field.Rat
import Mathlib.Tactic.Positivity

/-!
# The kinds of fields

Every field of an operation is of one of five kinds.  `FieldKind.Admits` says which values may
stand in a field of a kind and `FieldKind.Converts` what they are converted to; a value that may
stand there is converted unless one of its numbers is beyond the range of floats
(`FieldKind.exists_converts`).  The readers of fields convert these values and refuse all others
(`FieldKind.read_eq_ok_iff`).  Where a whole number is asked for, a float has to have its value
(`Numeric.Binary64.toInt?_eq_some_iff`).
-/

namespace Flipbook

/-! ### Whole numbers among the floats -/

namespace Numeric.Binary64

/-- The exact value, where there is one. -/
def value? : Binary64 → Option ℚ
  | finite negative m e => some (if negative then -(m * 2 ^ e) else m * 2 ^ e)
  | _ => none

/-- What is cut to a whole number without losing anything is that number. -/
theorem cut_eq_iff (m n : Nat) (e : Int) : cut m e = (n, true) ↔ (m : ℚ) * 2 ^ e = n := by
  cases e with
  | ofNat k =>
    have hpower : (2 : ℚ) ^ (Int.ofNat k) = 2 ^ k := zpow_natCast 2 k
    rw [hpower, cut, Prod.mk.injEq, Nat.shiftLeft_eq]
    norm_cast
    simp
  | negSucc k =>
    have hpower : (2 : ℚ) ^ (Int.negSucc k) = (2 ^ (k + 1))⁻¹ := zpow_negSucc 2 k
    have hpos : (2 : ℚ) ^ (k + 1) ≠ 0 := by positivity
    rw [hpower, mul_inv_eq_iff_eq_mul₀ hpos, cut, Prod.mk.injEq, Nat.shiftLeft_eq, one_mul,
      beq_iff_eq, Nat.shiftRight_eq_div_pow]
    norm_cast
    constructor
    · rintro ⟨rfl, hrest⟩
      exact (Nat.div_mul_cancel (Nat.dvd_of_mod_eq_zero hrest)).symm
    · rintro rfl
      exact ⟨Nat.mul_div_cancel _ (Nat.two_pow_pos _), Nat.mul_mod_left ..⟩

theorem cast_signed (negative : Bool) (n : Nat) :
    (signed negative n : ℚ) = if negative then -(n : ℚ) else n := by
  cases negative <;> simp [signed]

/-- **A float is read as a whole number exactly when that is its value.** -/
theorem toInt?_eq_some_iff (b : Binary64) (z : Int) :
    b.toInt? = some z ↔ b.value? = some (z : ℚ) := by
  cases b with
  | nan | infinite => simp [toInt?, value?]
  | finite negative m e =>
    have hcut : (finite negative m e).toInt? = some z ↔
        ∃ n, cut m e = (n, true) ∧ signed negative n = z := by
      rw [toInt?]
      rcases cut m e with ⟨n, _ | _⟩ <;> simp
    have hnonneg : 0 ≤ (m : ℚ) * 2 ^ e := by positivity
    simp only [hcut, cut_eq_iff, value?, Option.some.injEq]
    generalize (m : ℚ) * 2 ^ e = q at hnonneg
    constructor
    · rintro ⟨n, rfl, rfl⟩
      exact (cast_signed negative n).symm
    · intro hvalue
      -- the magnitude is that of the whole number
      have hmagnitude : q = z.natAbs := by
        rw [Nat.cast_natAbs, Int.cast_abs, ← hvalue]
        cases negative <;> simp [abs_of_nonneg hnonneg]
      refine ⟨z.natAbs, hmagnitude, ?_⟩
      rw [hmagnitude] at hvalue
      exact Int.cast_injective ((cast_signed negative z.natAbs).trans hvalue)

end Numeric.Binary64

/-! ### What the values of fields mean -/

namespace Value

/-- The value is a whole number, as such or as a float of that value. -/
inductive IsWhole (n : Int) : Value → Prop
  | int : IsWhole n (.int n)
  | float {x : Float} (h : (Numeric.Binary64.read x).value? = some (n : ℚ)) : IsWhole n (.float x)

/-- The value is a number that is converted to a float. -/
inductive IsNumber (x : Float) : Value → Prop
  | int {n : Int} (h : OfInteger.ofInteger? n = some x) : IsNumber x (.int n)
  | float : IsNumber x (.float x)

/-- The value is a sequence of the three coordinates. -/
inductive IsVector (p : Vec3 Float) : Value → Prop
  | list {x y z : Value} (hx : x.IsNumber p.x) (hy : y.IsNumber p.y) (hz : z.IsNumber p.z) :
      IsVector p (.list [x, y, z])
  | tuple {x y z : Value} (hx : x.IsNumber p.x) (hy : y.IsNumber p.y) (hz : z.IsNumber p.z) :
      IsVector p (.tuple [x, y, z])

/-- The value is the letter of the axis, between blanks, or its number. -/
inductive IsAxis (a : Axis) : Value → Prop
  | letter {s : String} (h : a.IsNamed (Text.trim s)) : IsAxis a (.str s)
  | index {v : Value} (h : v.IsWhole a.index) : IsAxis a v

end Value

namespace Field

theorem whole_eq_ok_iff {v : Value} {n : Int} : whole v = .ok n ↔ v.IsWhole n := by
  constructor
  · intro h
    unfold whole at h
    split at h
    · cases h
    · cases h
      exact .int
    · split at h
      · rename_i hint
        cases h
        exact .float ((Numeric.Binary64.toInt?_eq_some_iff _ _).1 hint)
      · cases h
    · cases h
  · rintro (_ | hvalue)
    · rfl
    · simp only [whole, (Numeric.Binary64.toInt?_eq_some_iff _ _).2 hvalue]

theorem number_eq_ok_iff {v : Value} {x : Float} : number v = .ok x ↔ v.IsNumber x := by
  constructor
  · intro h
    unfold number at h
    split at h
    · rename_i n
      cases hn : (OfInteger.ofInteger? n : Option Float) with
      | none =>
        simp only [Scalar.toFloat, hn] at h
        cases h
      | some y =>
        simp only [Scalar.toFloat, hn] at h
        cases h
        exact .int hn
    · cases h
      exact .float
    · cases h
  · rintro (hn | _)
    · simp only [number, Scalar.toFloat, hn]
      rfl
    · rfl

theorem coordinates_eq_ok_iff {x y z : Value} {p : Vec3 Float} :
    (do return ⟨← number x, ← number y, ← number z⟩ : Except FieldError (Vec3 Float)) = .ok p ↔
      x.IsNumber p.x ∧ y.IsNumber p.y ∧ z.IsNumber p.z := by
  simp only [← number_eq_ok_iff]
  constructor
  · intro h
    obtain ⟨a, ha, h⟩ := exists_of_bind_eq_ok h
    obtain ⟨b, hb, h⟩ := exists_of_bind_eq_ok h
    obtain ⟨c, hc, h⟩ := exists_of_bind_eq_ok h
    cases h
    exact ⟨ha, hb, hc⟩
  · rintro ⟨hx, hy, hz⟩
    rw [hx, hy, hz]
    rfl

theorem vector_eq_ok_iff {v : Value} {p : Vec3 Float} : vector v = .ok p ↔ v.IsVector p := by
  constructor
  · intro h
    unfold vector at h
    split at h
    · obtain ⟨hx, hy, hz⟩ := coordinates_eq_ok_iff.1 h
      exact .list hx hy hz
    · obtain ⟨hx, hy, hz⟩ := coordinates_eq_ok_iff.1 h
      exact .tuple hx hy hz
    · cases h
  · rintro (⟨hx, hy, hz⟩ | ⟨hx, hy, hz⟩) <;> exact coordinates_eq_ok_iff.2 ⟨hx, hy, hz⟩

theorem name_eq_ok_iff {v : Value} {s : String} : name v = .ok s ↔ v = .str s ∧ s ≠ "" := by
  constructor
  · intro h
    unfold name at h
    split at h
    · split at h
      · cases h
      · cases h
        exact ⟨rfl, ‹_›⟩
    · cases h
  · rintro ⟨rfl, hs⟩
    exact if_neg hs

theorem axis_eq_ok_iff {v : Value} {a : Axis} : axis v = .ok a ↔ v.IsAxis a := by
  constructor
  · intro h
    unfold axis at h
    split at h
    · refine .letter ((a.lower_eq_iff _).1 ?_)
      split at h <;> cases h <;> assumption
    · obtain ⟨n, hn, h⟩ := exists_of_bind_eq_ok h
      refine .index (whole_eq_ok_iff.1 ?_)
      split at h <;> cases h <;> exact hn
  · rintro (hs | hv)
    · simp only [axis, (a.lower_eq_iff _).2 hs]
      cases a <;> rfl
    · have hwhole := whole_eq_ok_iff.2 hv
      cases hv <;> simp only [axis, hwhole] <;> cases a <;> rfl

end Field

/-! ### Kinds -/

/-- The kinds of fields. -/
inductive FieldKind
  | whole | number | vector | name | axis

namespace FieldKind

/-- The value may stand in a field of the kind. -/
inductive Admits : FieldKind → Value → Prop
  /-- A whole number, or a float of whole value. -/
  | whole {v : Value} {n : Int} (h : v.IsWhole n) : Admits whole v
  /-- A whole number is a number. -/
  | int (n : Int) : Admits number (.int n)
  /-- A float is a number. -/
  | float (x : Float) : Admits number (.float x)
  /-- Three numbers are a vector. -/
  | list {x y z : Value} (hx : Admits number x) (hy : Admits number y) (hz : Admits number z) :
      Admits vector (.list [x, y, z])
  /-- Three numbers are a vector, also as a tuple. -/
  | tuple {x y z : Value} (hx : Admits number x) (hy : Admits number y) (hz : Admits number z) :
      Admits vector (.tuple [x, y, z])
  /-- A text that is not empty. -/
  | name {s : String} (h : s ≠ "") : Admits name (.str s)
  /-- The letter or the number of an axis. -/
  | axis {v : Value} {a : Axis} (h : v.IsAxis a) : Admits axis v

/-- The value of a field of the kind is converted to the other. -/
inductive Converts : FieldKind → Value → Value → Prop
  | whole {v : Value} {n : Int} (h : v.IsWhole n) : Converts whole v (.int n)
  | number {v : Value} {x : Float} (h : v.IsNumber x) : Converts number v (.float x)
  | vector {v : Value} {p : Vec3 Float} (h : v.IsVector p) :
      Converts vector v (.tuple [.float p.x, .float p.y, .float p.z])
  | name {s : String} (h : s ≠ "") : Converts name (.str s) (.str s)
  | axis {v : Value} {a : Axis} (h : v.IsAxis a) : Converts axis v (.int a.index)

theorem admits_of_isNumber {v : Value} {x : Float} (h : v.IsNumber x) : Admits number v := by
  cases h with
  | int => exact .int _
  | float => exact .float _

theorem exists_isNumber {v : Value} (h : Admits number v) (hv : ¬v.Overflows) :
    ∃ x, v.IsNumber x := by
  cases h with
  | int n =>
    cases hn : (OfInteger.ofInteger? n : Option Float) with
    | none => exact absurd ⟨n, .here, hn⟩ hv
    | some x => exact ⟨x, .int hn⟩
  | float x => exact ⟨x, .float⟩

theorem Converts.admits {kind : FieldKind} {v w : Value} (h : kind.Converts v w) :
    kind.Admits v := by
  cases h with
  | whole hn => exact .whole hn
  | number hx => exact admits_of_isNumber hx
  | vector hp =>
    obtain ⟨hx, hy, hz⟩ | ⟨hx, hy, hz⟩ := hp
    · exact .list (admits_of_isNumber hx) (admits_of_isNumber hy) (admits_of_isNumber hz)
    · exact .tuple (admits_of_isNumber hx) (admits_of_isNumber hy) (admits_of_isNumber hz)
  | name hs => exact .name hs
  | axis ha => exact .axis ha

/-- **What may stand in the field is converted**, unless one of its numbers is out of range. -/
theorem exists_converts {kind : FieldKind} {v : Value} (h : kind.Admits v) (hv : ¬v.Overflows) :
    ∃ w, kind.Converts v w := by
  -- the coordinates of a vector hold no more numbers than the vector
  have coordinate {w : Value} (hw : Admits number w) (hvw : ∀ n, w.Holds n → v.Holds n) :
      ∃ x, w.IsNumber x :=
    exists_isNumber hw fun hlarge => hv (hlarge.mono hvw)
  cases h with
  | whole h => exact ⟨_, .whole h⟩
  | int n =>
    obtain ⟨x, hx⟩ := exists_isNumber (.int n) hv
    exact ⟨_, .number hx⟩
  | float x => exact ⟨_, .number .float⟩
  | list hx hy hz =>
    obtain ⟨a, ha⟩ := coordinate hx fun n hn => .item (by simp) hn
    obtain ⟨b, hb⟩ := coordinate hy fun n hn => .item (by simp) hn
    obtain ⟨c, hc⟩ := coordinate hz fun n hn => .item (by simp) hn
    exact ⟨_, .vector (p := ⟨a, b, c⟩) (.list ha hb hc)⟩
  | tuple hx hy hz =>
    obtain ⟨a, ha⟩ := coordinate hx fun n hn => .part (by simp) hn
    obtain ⟨b, hb⟩ := coordinate hy fun n hn => .part (by simp) hn
    obtain ⟨c, hc⟩ := coordinate hz fun n hn => .part (by simp) hn
    exact ⟨_, .vector (p := ⟨a, b, c⟩) (.tuple ha hb hc)⟩
  | name hs => exact ⟨_, .name hs⟩
  | axis ha => exact ⟨_, .axis ha⟩

/-- The reader of the kind, with its result as a value again. -/
def read : FieldKind → Value → Except FieldError Value
  | whole, v => (Field.whole v).map .int
  | number, v => (Field.number v).map .float
  | vector, v => (Field.vector v).map Operation.fieldValues.vector
  | name, v => (Field.name v).map .str
  | axis, v => (Field.axis v).map fun a => .int a.index

/-- **The reader of a kind converts what the kind admits, and refuses everything else.** -/
theorem read_eq_ok_iff {kind : FieldKind} {v w : Value} :
    kind.read v = .ok w ↔ kind.Converts v w := by
  constructor
  · intro h
    cases kind with
    | whole =>
      obtain ⟨n, hn, rfl⟩ := exists_of_map_eq_ok h
      exact .whole (Field.whole_eq_ok_iff.1 hn)
    | number =>
      obtain ⟨x, hx, rfl⟩ := exists_of_map_eq_ok h
      exact .number (Field.number_eq_ok_iff.1 hx)
    | vector =>
      obtain ⟨p, hp, rfl⟩ := exists_of_map_eq_ok h
      exact .vector (Field.vector_eq_ok_iff.1 hp)
    | name =>
      obtain ⟨s, hname, rfl⟩ := exists_of_map_eq_ok h
      obtain ⟨rfl, hs⟩ := Field.name_eq_ok_iff.1 hname
      exact .name hs
    | axis =>
      obtain ⟨a, ha, rfl⟩ := exists_of_map_eq_ok h
      exact .axis (Field.axis_eq_ok_iff.1 ha)
  · intro h
    cases h with
    | whole hn => rw [read, Field.whole_eq_ok_iff.2 hn]; rfl
    | number hx => rw [read, Field.number_eq_ok_iff.2 hx]; rfl
    | vector hp => rw [read, Field.vector_eq_ok_iff.2 hp]; rfl
    | name hs => rw [read, Field.name_eq_ok_iff.2 ⟨rfl, hs⟩]; rfl
    | axis ha => rw [read, Field.axis_eq_ok_iff.2 ha]; rfl

end FieldKind

end Flipbook
