import Flipbook.Proofs.Symbols

/-!
# Reading a frame and writing it

The entries of a frame can be read as values by knob (`KnobSchedule.valuesAt`), and they can be
written into a symbol table one after the other (`SymbolTable.applyEntries`).  A table that the
entries were written into agrees with what is read: both go by the last entry of a knob.  What the
entries do not name stays as it was, new names stand behind the old ones, and writing the frame once
more changes nothing (`KnobSchedule.applied_agrees_with_values`).
-/

namespace Flipbook

namespace SymbolTable

variable {α : Type} (t : SymbolTable α)

theorem applyEntries_eq (entries : Array (KnobEntry α)) :
    t.applyEntries entries = { t with knobs := t.knobs.insertAll entries.toList } := by
  unfold applyEntries
  rw [← Array.foldl_toList]
  induction entries.toList generalizing t with
  | nil => rfl
  | cons e es ih => exact ih (t.setKnob e.1 e.2)

theorem isSome_lastValue {entries : List (KnobEntry α)} {name : String} :
    (lastValue entries name).isSome = true ↔ ∃ e ∈ entries, e.1 = name := by
  induction entries with
  | nil => simp [lastValue]
  | cons e entries ih =>
    rw [lastValue_cons, Option.isSome_or, Bool.or_eq_true, ih, List.exists_mem_cons_iff, or_comm]
    by_cases h : e.1 = name <;> simp [h]

theorem lastValue_eq_none_iff {entries : List (KnobEntry α)} {name : String} :
    lastValue entries name = none ↔ ∀ e ∈ entries, e.1 ≠ name := by
  rw [← Option.not_isSome_iff_eq_none, isSome_lastValue, not_exists]
  exact forall_congr' fun e => not_and

theorem get?_ofList (entries : Array (KnobEntry α)) (name : String) :
    (OrderedMap.ofList entries.toList).get? name = lastValue entries.toList name := by
  have h := knob?_applyEntries (empty : SymbolTable α) entries name
  rw [applyEntries_eq] at h
  exact h.trans (Option.or_none ..)

end SymbolTable

namespace KnobSchedule

open SymbolTable

variable {α : Type} (s : KnobSchedule α)

/-- Frames are counted from the start, or from the end with negative numbers. -/
theorem exists_entriesAt {frame : Int} (hlow : -(s.size : Int) ≤ frame) (hhigh : frame < s.size) :
    ∃ entries, s.entriesAt frame = .ok entries := by
  obtain ⟨i, hi, hplace⟩ : ∃ i : Nat, i < s.size ∧
      (if frame < 0 then frame + s.size else frame) = (i : Int) := by
    split
    · exact ⟨(frame + s.size).toNat, by omega, by omega⟩
    · exact ⟨frame.toNat, by omega, by omega⟩
  refine ⟨s.frames[i], ?_⟩
  simp only [entriesAt, hplace, Array.getElem?_eq_getElem hi]

/-- **A frame leaves in a symbol table what is read from it.**  A knob that the frame names has the
value of its last entry, and any other knob and all materials are as before; the knobs that were
there keep their places and new ones follow in the order of their first entries; and writing the
frame once more changes nothing. -/
theorem applied_agrees_with_values (t : SymbolTable α) {frame : Int}
    (hlow : -(s.size : Int) ≤ frame) (hhigh : frame < s.size) :
    ∃ entries values, s.entriesAt frame = .ok entries ∧ s.valuesAt frame = .ok values ∧
      let after := t.applyEntries entries
      (∀ name, (∃ e ∈ entries.toList, e.1 = name) → ∃ x, values.get? name = some x ∧
        lastValue entries.toList name = some x ∧ after.knob? name = some x) ∧
      (∀ name, (∀ e ∈ entries.toList, e.1 ≠ name) →
        values.get? name = none ∧ after.knob? name = t.knob? name) ∧
      after.constants = t.constants ∧
      values.keys = (entries.toList.map (·.1)).eraseDups ∧
      after.knobs.keys = t.knobs.keys ++
        ((entries.toList.map (·.1)).filter fun name => !t.knobs.contains name).eraseDups ∧
      after.applyEntries entries = after := by
  obtain ⟨entries, hentries⟩ := s.exists_entriesAt hlow hhigh
  have hvalues : s.valuesAt frame = .ok (.ofList entries.toList) := by
    rw [valuesAt, hentries]
    rfl
  refine ⟨entries, _, hentries, hvalues, ?_, ?_, constants_applyEntries ..,
    OrderedMap.keys_ofList _, ?_, ?_⟩
  · intro name hnamed
    obtain ⟨x, hx⟩ := Option.isSome_iff_exists.1 (isSome_lastValue.2 hnamed)
    refine ⟨x, (get?_ofList ..).trans hx, hx, ?_⟩
    rw [knob?_applyEntries, hx, Option.some_or]
  · intro name hunnamed
    have hnone := lastValue_eq_none_iff.2 hunnamed
    refine ⟨(get?_ofList ..).trans hnone, ?_⟩
    rw [knob?_applyEntries, hnone, Option.none_or]
  · rw [applyEntries_eq]
    exact OrderedMap.keys_insertAll ..
  · rw [applyEntries_eq, applyEntries_eq, OrderedMap.insertAll_insertAll]

/-- The last frame, counted from the end: two entries of one knob, one of a knob that is there and
one of a new one. -/
theorem applied_agrees_with_values_repeated :
    let s : KnobSchedule Nat := ⟨#[#[], #[("turn", 1), ("size", 2), ("turn", 3), ("bend", 4)]]⟩
    let t : SymbolTable Nat := ⟨.ofList [("size", 7), ("fade", 8)], .empty⟩
    (-(s.size : Int) ≤ -1 ∧ (-1 : Int) < s.size) ∧
    ∃ entries values, s.entriesAt (-1) = .ok entries ∧ s.valuesAt (-1) = .ok values ∧
      values.get? "turn" = some 3 ∧ (t.applyEntries entries).knob? "turn" = some 3 ∧
      (t.applyEntries entries).knob? "fade" = some 8 ∧
      (t.applyEntries entries).knobs.keys = ["size", "fade", "turn", "bend"] ∧
      (t.applyEntries entries).applyEntries entries = t.applyEntries entries := by
  intro s t
  have hvalid : -(s.size : Int) ≤ -1 ∧ (-1 : Int) < s.size := by decide
  obtain ⟨entries, values, hentries, hvalues, hnamed, hunnamed, -, -, hkeys, hagain⟩ :=
    s.applied_agrees_with_values t hvalid.1 hvalid.2
  obtain rfl : entries = #[("turn", 1), ("size", 2), ("turn", 3), ("bend", 4)] :=
    Except.ok.inj (hentries.symm.trans rfl)
  obtain ⟨x, hread, hlast, hknob⟩ := hnamed "turn" ⟨("turn", 3), by simp, rfl⟩
  obtain rfl : x = 3 := Option.some.inj (hlast.symm.trans (by decide))
  exact ⟨hvalid, _, values, hentries, hvalues, hread, hknob, (hunnamed "fade" (by decide)).2,
    hkeys.trans (by decide), hagain⟩

end KnobSchedule

end Flipbook
