import Flipbook.OrderedMap
import Mathlib.Data.List.Basic
import Mathlib.Tactic.Common

/-!
# Writing to ordered maps

Writing changes the value of one key and of no other (`OrderedMap.get?_insert`).  A key that is
there keeps its place and a new one goes to the end (`OrderedMap.keys_insert`), so after entries
were written one after the other the new keys stand behind the old ones, each once, in the order in
which they came in first (`OrderedMap.keys_insertAll`).  Writing the same entries again changes
nothing (`OrderedMap.insertAll_insertAll`), although the values in between are not the last ones.
-/

namespace Flipbook

theorem nodup_eraseDups {κ : Type} [BEq κ] [LawfulBEq κ] : (l : List κ) → l.eraseDups.Nodup
  | [] => List.nodup_nil
  | a :: as => by
    rw [List.eraseDups_cons, List.nodup_cons]
    refine ⟨?_, nodup_eraseDups _⟩
    simp
termination_by l => l.length
decreasing_by exact Nat.lt_succ_of_le (List.length_filter_le ..)

namespace OrderedMap

variable {κ β : Type} [BEq κ] [LawfulBEq κ] [DecidableEq κ]

/-! ### Lookups -/

theorem lookup_cons_eq (e : κ × β) (es : List (κ × β)) (k : κ) :
    (e :: es).lookup k = if k = e.1 then some e.2 else es.lookup k := by
  by_cases h : k = e.1
  · rw [if_pos h, h]
    exact List.lookup_cons_self
  · rw [if_neg h, List.lookup_cons, beq_false_of_ne h]

theorem lookup_put (k k' : κ) (v : β) (es : List (κ × β)) :
    (put k v es).lookup k' = if k' = k then some v else es.lookup k' := by
  induction es with
  | nil => exact lookup_cons_eq (k, v) [] k'
  | cons e es ih =>
    rw [lookup_cons_eq e]
    by_cases he : k = e.1
    · rw [put, if_pos (beq_iff_eq.2 he), lookup_cons_eq, he]
      by_cases h : k' = e.1 <;> simp [h]
    · rw [put, if_neg (by simpa using he), lookup_cons_eq, ih]
      by_cases h : k' = k
      · simp [h, he]
      · simp [h]

@[simp] theorem get?_insert (m : OrderedMap κ β) (k k' : κ) (v : β) :
    (m.insert k v).get? k' = if k' = k then some v else m.get? k' :=
  lookup_put k k' v m.entries

theorem put_of_lookup_eq_none {k : κ} {es : List (κ × β)} (h : es.lookup k = none) (v : β) :
    put k v es = es ++ [(k, v)] := by
  induction es with
  | nil => rfl
  | cons e es ih =>
    rw [lookup_cons_eq] at h
    by_cases he : k = e.1
    · rw [if_pos he] at h
      cases h
    · rw [if_neg he] at h
      rw [put, if_neg (by simpa using he), ih h]
      rfl

/-! ### Keys -/

omit [LawfulBEq κ] [DecidableEq κ] in
theorem contains_iff {m : OrderedMap κ β} {k : κ} : m.contains k = true ↔ ∃ v, m.get? k = some v :=
  Option.isSome_iff_exists

omit [LawfulBEq κ] [DecidableEq κ] in
theorem contains_eq_false_iff {m : OrderedMap κ β} {k : κ} :
    m.contains k = false ↔ m.get? k = none := by
  rw [contains, Option.isSome_eq_false_iff, Option.isNone_iff_eq_none]

theorem contains_insert (m : OrderedMap κ β) (k k' : κ) (v : β) :
    (m.insert k v).contains k' = (k' == k || m.contains k') := by
  rw [contains, get?_insert]
  by_cases h : k' = k
  · simp [h]
  · simp [h, contains]

theorem mem_keys_iff {m : OrderedMap κ β} {k : κ} : k ∈ m.keys ↔ m.contains k = true := by
  obtain ⟨es⟩ := m
  simp only [keys, contains, get?]
  induction es with
  | nil => simp
  | cons e es ih =>
    rw [List.map_cons, List.mem_cons, ih, lookup_cons_eq]
    by_cases h : k = e.1 <;> simp [h]

/-- Where every key has one entry, that is the one which is found. -/
theorem get?_eq_some_iff {m : OrderedMap κ β} (h : m.keys.Nodup) {k : κ} {v : β} :
    m.get? k = some v ↔ (k, v) ∈ m.entries := by
  obtain ⟨es⟩ := m
  simp only [keys, get?] at h ⊢
  induction es with
  | nil => simp
  | cons e es ih =>
    rw [List.map_cons, List.nodup_cons] at h
    rw [lookup_cons_eq, List.mem_cons]
    by_cases hk : k = e.1
    · have hother : (k, v) ∉ es := fun hmem => h.1 (hk ▸ List.mem_map_of_mem hmem)
      rw [if_pos hk, or_iff_left hother, Option.some.injEq, hk, Prod.ext_iff, and_iff_right rfl,
        eq_comm]
    · rw [if_neg hk, ih h.2, or_iff_right fun heq => hk (congrArg Prod.fst heq)]

theorem keys_put_of_mem {k : κ} {es : List (κ × β)} (h : k ∈ es.map (·.1)) (v : β) :
    (put k v es).map (·.1) = es.map (·.1) := by
  induction es with
  | nil => cases h
  | cons e es ih =>
    by_cases he : k = e.1
    · rw [put, if_pos (beq_iff_eq.2 he)]
      rfl
    · rw [put, if_neg (by simpa using he), List.map_cons, List.map_cons,
        ih ((List.mem_cons.1 h).resolve_left he)]

/-- **A key that is there keeps its place, and a new one goes to the end.** -/
theorem keys_insert (m : OrderedMap κ β) (k : κ) (v : β) :
    (m.insert k v).keys = if m.contains k then m.keys else m.keys ++ [k] := by
  by_cases h : m.contains k = true
  · rw [if_pos h]
    exact keys_put_of_mem (mem_keys_iff.2 h) v
  · rw [if_neg h]
    have hnone := contains_eq_false_iff.1 (Bool.eq_false_iff.2 h)
    simp only [keys, insert, put_of_lookup_eq_none hnone, List.map_append, List.map_cons,
      List.map_nil]

/-! ### Writing twice -/

theorem insert_of_get? {m : OrderedMap κ β} {k : κ} {v : β} (h : m.get? k = some v) :
    m.insert k v = m := by
  obtain ⟨es⟩ := m
  simp only [get?] at h
  refine congrArg OrderedMap.mk ?_
  induction es with
  | nil => cases h
  | cons e es ih =>
    rw [lookup_cons_eq] at h
    by_cases he : k = e.1
    · rw [if_pos he] at h
      rw [put, if_pos (beq_iff_eq.2 he), ← Option.some.inj h]
    · rw [if_neg he] at h
      rw [put, if_neg (by simpa using he), ih h]

theorem put_put_self (k : κ) (v v' : β) (es : List (κ × β)) :
    put k v (put k v' es) = put k v es := by
  induction es with
  | nil => simp [put]
  | cons e es ih =>
    by_cases he : k = e.1
    · simp [put, he]
    · simp only [put, beq_false_of_ne he, Bool.false_eq_true, ↓reduceIte, ih]

theorem insert_insert_self (m : OrderedMap κ β) (k : κ) (v v' : β) :
    (m.insert k v').insert k v = m.insert k v :=
  congrArg mk (put_put_self k v v' m.entries)

theorem put_comm {k k' : κ} (hne : k ≠ k') {es : List (κ × β)} (hk : k ∈ es.map (·.1))
    (v v' : β) : put k v (put k' v' es) = put k' v' (put k v es) := by
  induction es with
  | nil => cases hk
  | cons e es ih =>
    by_cases he : k = e.1
    · have he' : k' ≠ e.1 := fun h => hne (he.trans h.symm)
      simp [put, he, beq_false_of_ne he']
    · by_cases he' : k' = e.1
      · simp [put, he', beq_false_of_ne he]
      · simp only [put, beq_false_of_ne he, beq_false_of_ne he', Bool.false_eq_true, ↓reduceIte,
          ih ((List.mem_cons.1 hk).resolve_left he)]

theorem insert_comm {m : OrderedMap κ β} {k k' : κ} (hne : k ≠ k') (hk : m.contains k = true)
    (v v' : β) : (m.insert k' v').insert k v = (m.insert k v).insert k' v' :=
  congrArg mk (put_comm hne (mem_keys_iff.2 hk) v v')

/-! ### Entries that are written one after the other -/

variable (m : OrderedMap κ β) (es : List (κ × β))

omit [LawfulBEq κ] [DecidableEq κ] in
theorem insertAll_cons (e : κ × β) :
    m.insertAll (e :: es) = (m.insert e.1 e.2).insertAll es := rfl

theorem contains_insertAll_of_contains {k : κ} (h : m.contains k = true) :
    (m.insertAll es).contains k = true := by
  induction es generalizing m with
  | nil => exact h
  | cons e es ih =>
    refine ih _ ?_
    rw [contains_insert, h, Bool.or_true]

/-- **New keys stand behind the old ones**, each once, in the order in which they came in first. -/
theorem keys_insertAll : (m.insertAll es).keys =
    m.keys ++ ((es.map (·.1)).filter fun k => !m.contains k).eraseDups := by
  induction es generalizing m with
  | nil => simp [insertAll]
  | cons e es ih =>
    rw [insertAll_cons, ih, keys_insert, List.map_cons]
    by_cases h : m.contains e.1 = true
    · have hsame : (m.insert e.1 e.2).contains = m.contains := by
        funext k
        rw [contains_insert]
        by_cases hk : k = e.1 <;> simp [hk, h]
      rw [if_pos h, List.filter_cons_of_neg (by simp [h]), hsame]
    · -- from here on the key is known, so its further entries do not count
      rw [if_neg h, List.filter_cons_of_pos (by simp [h]), List.eraseDups_cons, List.filter_filter,
        List.append_assoc]
      simp only [contains_insert, Bool.not_or, List.singleton_append]

theorem insertAll_insert_of_mem {k : κ} (hk : m.contains k = true) (hes : k ∈ es.map (·.1))
    (v : β) : (m.insert k v).insertAll es = m.insertAll es := by
  induction es generalizing m with
  | nil => cases hes
  | cons e es ih =>
    rw [insertAll_cons, insertAll_cons]
    by_cases he : k = e.1
    · rw [he, insert_insert_self]
    · rw [← insert_comm he hk]
      refine ih _ ?_ ((List.mem_cons.1 hes).resolve_left he)
      rw [contains_insert, hk, Bool.or_true]

/-- A write to a key that is not written later on may as well come last. -/
theorem insertAll_insert_of_notMem {k : κ} (hk : m.contains k = true) (hes : k ∉ es.map (·.1))
    (v : β) : (m.insert k v).insertAll es = (m.insertAll es).insert k v := by
  induction es generalizing m with
  | nil => rfl
  | cons e es ih =>
    rw [List.map_cons, List.mem_cons, not_or] at hes
    rw [insertAll_cons, insertAll_cons, ← insert_comm hes.1 hk]
    refine ih _ ?_ hes.2
    rw [contains_insert, hk, Bool.or_true]

/-- **Writing the same entries once more changes nothing.** -/
theorem insertAll_insertAll : (m.insertAll es).insertAll es = m.insertAll es := by
  -- the induction is on the entries; the first one is overwritten by a later one or stays
  induction es generalizing m with
  | nil => rfl
  | cons e es ih =>
    have hfirst : (m.insert e.1 e.2).contains e.1 = true := by simp [contains_insert]
    have hlast := contains_insertAll_of_contains (m.insert e.1 e.2) es hfirst
    rw [insertAll_cons, insertAll_cons]
    by_cases hes : e.1 ∈ es.map (·.1)
    · rw [insertAll_insert_of_mem _ es hlast hes, ih]
    · rw [insertAll_insert_of_notMem _ es hlast hes, ih,
        ← insertAll_insert_of_notMem _ es hfirst hes, insert_insert_self]

theorem keys_ofList : (ofList es).keys = (es.map (·.1)).eraseDups := by
  have hnew : ((es.map (·.1)).filter fun k => !(empty : OrderedMap κ β).contains k) =
      es.map (·.1) := List.filter_eq_self.2 fun _ _ => rfl
  rw [ofList, keys_insertAll, hnew]
  rfl

end OrderedMap

end Flipbook
