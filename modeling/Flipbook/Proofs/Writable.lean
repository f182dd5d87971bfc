import Flipbook.Fault
import Mathlib.Tactic.Common

/-!
# What can be written

A whole number is written unless it has more than `Text.maxIntegerDigits` digits, and a value unless
it holds a whole number that is not.  A fault whose message cannot be written gives way to the
conversion that fails there (`Fault.raised_cases`), so whatever is raised can be written
(`Fault.isWritable_raised`).
-/

namespace Flipbook

theorem Text.isWritable_eq_false_iff {n : Int} :
    isWritable n = false ↔ writtenBound ≤ n.natAbs := by
  rw [isWritable, decide_eq_false_iff_not, Nat.not_lt]

namespace Scalar

theorem toText_eq_ok_iff {s : Scalar} {name : String} :
    s.toText = .ok name ↔ s.isWritable = true ∧ s.text = name := by
  unfold toText
  split <;> simp_all

end Scalar

namespace Value

theorem fieldsWritable_iff {fields : List (Scalar × Value)} :
    fieldsWritable fields = true ↔
      ∀ f ∈ fields, f.1.isWritable = true ∧ f.2.isWritable = true := by
  induction fields with
  | nil => simp [fieldsWritable]
  | cons f fields ih => simp [fieldsWritable, ih]

variable {v : Value}

theorem map_not_isWritable {fields : List (Scalar × Value)} {k : Scalar} (hk : (k, v) ∈ fields)
    (h : k.isWritable = false ∨ v.isWritable = false) : (map fields).isWritable = false := by
  rw [isWritable, Bool.eq_false_iff, ne_eq, fieldsWritable_iff]
  intro hall
  obtain ⟨hkey, hvalue⟩ := hall _ hk
  rcases h with h | h
  · exact Bool.eq_false_iff.1 h hkey
  · exact Bool.eq_false_iff.1 h hvalue

end Value

namespace Fault

variable {f : Fault}

theorem raised_of_isWritable (h : f.isWritable = true) : f.raised = f := if_pos h

theorem raised_of_not (h : f.isWritable = false) : f.raised = .conversion .tooManyDigits :=
  if_neg (Bool.eq_false_iff.1 h)

/-- **A fault is raised as it is, or its message cannot be written.** -/
theorem raised_cases (f : Fault) :
    f.isWritable = true ∧ f.raised = f ∨
      f.isWritable = false ∧ f.raised = .conversion .tooManyDigits := by
  cases h : f.isWritable with
  | true => exact .inl ⟨rfl, raised_of_isWritable h⟩
  | false => exact .inr ⟨rfl, raised_of_not h⟩

theorem isWritable_raised (f : Fault) : f.raised.isWritable = true := by
  rcases f.raised_cases with ⟨h, heq⟩ | ⟨-, heq⟩
  · rw [heq, h]
  · rw [heq]
    rfl

end Fault

end Flipbook
