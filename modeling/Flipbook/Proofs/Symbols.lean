import Flipbook.Proofs.OrderedMap
import Flipbook.Timeline.Schedule

/-!
# What is read from a symbol table after it was written

Writing to an ordered map changes the value of one key and of no other.  From this follows what a
knob is after the entries of a frame were written one after the other (`knob?_applyEntries`: the
last entry of its name counts) and after the knobs that a script names were declared
(`knob?_declareKnobs`: a knob without a value is zero).  Neither touches the materials.
-/

namespace Flipbook

namespace SymbolTable

variable {α : Type} (t : SymbolTable α)

@[simp] theorem knob?_setKnob (name name' : String) (x : α) :
    (t.setKnob name x).knob? name' = if name' = name then some x else t.knob? name' :=
  OrderedMap.get?_insert ..

@[simp] theorem constants_setKnob (name : String) (x : α) :
    (t.setKnob name x).constants = t.constants := rfl

/-- The value that the last entry of a knob gives to it. -/
def lastValue (entries : List (KnobEntry α)) (name : String) : Option α :=
  (entries.filter (·.1 = name)).getLast?.map (·.2)

theorem getLast?_filter_cons {β : Type} (p : β → Bool) (b : β) (bs : List β) :
    ((b :: bs).filter p).getLast? =
      (bs.filter p).getLast?.or (if p b then some b else none) := by
  by_cases h : p b
  · rw [List.filter_cons_of_pos h, List.getLast?_cons, if_pos h]
    cases (bs.filter p).getLast? <;> rfl
  · rw [List.filter_cons_of_neg h, if_neg h, Option.or_none]

theorem lastValue_cons (e : KnobEntry α) (entries : List (KnobEntry α)) (name : String) :
    lastValue (e :: entries) name =
      (lastValue entries name).or (if e.1 = name then some e.2 else none) := by
  unfold lastValue
  rw [getLast?_filter_cons]
  cases (entries.filter (·.1 = name)).getLast? with
  | some => rfl
  | none => by_cases h : e.1 = name <;> simp [h]

/-- **Of several entries of a knob the last one counts**, and a knob without an entry keeps its
value. -/
theorem knob?_applyEntries (entries : Array (KnobEntry α)) (name : String) :
    (t.applyEntries entries).knob? name =
      (lastValue entries.toList name).or (t.knob? name) := by
  unfold applyEntries
  rw [← Array.foldl_toList]
  induction entries.toList generalizing t with
  | nil => rfl
  | cons e es ih =>
    rw [List.foldl_cons, ih, lastValue_cons, knob?_setKnob, Option.or_assoc]
    by_cases h : e.1 = name
    · simp [h]
    · simp [h, Ne.symm h]

theorem constants_applyEntries (entries : Array (KnobEntry α)) :
    (t.applyEntries entries).constants = t.constants := by
  unfold applyEntries
  rw [← Array.foldl_toList]
  induction entries.toList generalizing t with
  | nil => rfl
  | cons e es ih => rw [List.foldl_cons, ih, constants_setKnob]

/-- **A knob that operations name and nothing has set is zero.** -/
theorem knob?_declareKnobs [Zero α] (ops : List (Operation α)) (name : String) :
    (t.declareKnobs ops).1.knob? name =
      (t.knob? name).or (if ∃ op ∈ ops, op.knob? = some name then some 0 else none) := by
  induction ops generalizing t with
  | nil => simp [declareKnobs]
  | cons op ops ih =>
    unfold declareKnobs
    cases hop : op.knob? with
    | none => simp [ih, hop]
    | some name' =>
      by_cases hknown : t.knobs.contains name' = true
      · obtain ⟨x, hx⟩ : ∃ x, t.knob? name' = some x := Option.isSome_iff_exists.1 hknown
        simp only [hknown, ↓reduceIte, ih, List.mem_cons, exists_eq_or_imp, hop, Option.some.injEq]
        by_cases h : name' = name
        · subst h
          simp [hx]
        · simp [h]
      · have hx : t.knob? name' = none := by
          simpa [OrderedMap.contains, knob?] using hknown
        simp only [hknown, Bool.false_eq_true, ↓reduceIte, ih, knob?_setKnob, List.mem_cons,
          exists_eq_or_imp, hop, Option.some.injEq]
        by_cases h : name' = name
        · subst h
          simp [hx]
        · simp [h, Ne.symm h]

theorem constants_declareKnobs [Zero α] (ops : List (Operation α)) :
    (t.declareKnobs ops).1.constants = t.constants := by
  induction ops generalizing t with
  | nil => rfl
  | cons op ops ih =>
    unfold declareKnobs
    split
    · exact ih t
    · split
      · exact ih t
      · exact ih _

end SymbolTable

end Flipbook
