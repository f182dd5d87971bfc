import Flipbook.Proofs.Symbols
import Mathlib.Data.List.Forall2

/-!
# What a schedule makes of the knobs from frame to frame

A schedule is built from the ranges of a script one range after the other, and applied one frame
after the other.  `KnobSchedule.lists_ofOperations` says what it holds: for every frame the ranges
that cover it, in the order of the script, with their values there.  `KnobSchedule.tableAfter` is
the symbol table once a number of frames have been applied, and
`KnobSchedule.Lists.knob?_of_covered` and `KnobSchedule.Lists.knob?_of_uncovered` say what it
holds: the value of the last range that covers the last frame in which the knob varies, or what it
held from the start.
-/

namespace Flipbook

namespace Vary

variable {α : Type}

/-- The frame lies in the range. -/
def Covers (v : Vary α) (j : Int) : Prop := v.startFrame ≤ j ∧ j ≤ v.endFrame

instance (v : Vary α) (j : Int) : Decidable (v.Covers j) := inferInstanceAs (Decidable (_ ∧ _))

end Vary

namespace KnobSchedule

open SymbolTable

variable {α : Type}

/-! ### Symbol tables -/

/-- The table after the entries of the first `n` frames have been written. -/
def tableAfter (s : KnobSchedule α) (t : SymbolTable α) (n : Nat) : SymbolTable α :=
  (s.frames.toList.take n).foldl applyEntries t

@[simp] theorem tableAfter_zero (s : KnobSchedule α) (t : SymbolTable α) :
    s.tableAfter t 0 = t := rfl

theorem tableAfter_succ {s : KnobSchedule α} {n : Nat} {es : Array (KnobEntry α)}
    (h : s.frames[n]? = some es) (t : SymbolTable α) :
    s.tableAfter t (n + 1) = (s.tableAfter t n).applyEntries es := by
  unfold tableAfter
  rw [List.take_add_one, Array.getElem?_toList, h, List.foldl_append]
  rfl

theorem constants_tableAfter (s : KnobSchedule α) (t : SymbolTable α) (n : Nat) :
    (s.tableAfter t n).constants = t.constants := by
  unfold tableAfter
  induction s.frames.toList.take n generalizing t with
  | nil => rfl
  | cons es ess ih => rw [List.foldl_cons, ih, constants_applyEntries]

/-! ### Building a schedule -/

/-- The last range of a knob that covers a frame. -/
def varyAt (vs : List (Vary α)) (name : String) (j : Int) : Option (Vary α) :=
  ((vs.filter (·.Covers j)).filter (·.knob = name)).getLast?

theorem varyAt_of_unnamed {ops : List (Operation α)} {name : String}
    (h : ∀ op ∈ ops, op.knob? ≠ some name) (j : Int) : varyAt (varies ops) name j = none := by
  rw [varyAt, List.getLast?_eq_none_iff, List.filter_eq_nil_iff]
  intro v hv hname
  obtain ⟨op, hop, hvary⟩ := List.mem_filterMap.1 (List.mem_of_mem_filter hv)
  cases op with
  | vary w =>
    obtain rfl := Option.some.inj hvary
    exact h _ hop (congrArg some (of_decide_eq_true hname))
  | _ => cases hvary

variable [Add α] [Sub α] [Mul α] [Div α] [OfInteger α]

/-- The entry is that of the range in frame `j`. -/
def IsEntry (j : Int) (v : Vary α) (e : KnobEntry α) : Prop :=
  v.knob = e.1 ∧ v.valueAt j = .ok e.2

/-- The schedule lists, for each of `n` frames, the ranges that cover it in order. -/
structure Lists (n : Int) (vs : List (Vary α)) (s : KnobSchedule α) : Prop where
  size : s.frames.size = n.toNat
  within : ∀ v ∈ vs, 0 ≤ v.startFrame ∧ v.endFrame < n
  entries : ∀ (j : Nat) es, s.frames[j]? = some es →
    List.Forall₂ (IsEntry j) (vs.filter (·.Covers j)) es.toList

theorem lists_empty (n : Int) : Lists n [] (empty n : KnobSchedule α) where
  size := by simp [empty]
  within := by simp
  entries j es h := by
    obtain rfl : es = #[] := by
      simp only [empty, Array.getElem?_replicate] at h
      split at h
      · exact (Option.some.inj h).symm
      · cases h
    exact .nil

theorem addRange_spec {v : Vary α} {first : Int} (hfirst : 0 ≤ first) {count : Nat}
    {s s' : KnobSchedule α} (h : addRange v first count s = .ok s') :
    s'.frames.size = s.frames.size ∧ ∀ (j : Nat) es, s.frames[j]? = some es →
      if first ≤ j ∧ j < first + count then
        ∃ x, v.valueAt j = .ok x ∧ s'.frames[j]? = some (es.push (v.knob, x))
      else s'.frames[j]? = some es := by
  induction count generalizing first s with
  | zero =>
    cases h
    refine ⟨rfl, fun j es hj => ?_⟩
    rw [if_neg (by omega)]
    exact hj
  | succ count ih =>
    cases hx : v.valueAt first with
    | error => simp [addRange, hx, bind, Except.bind] at h
    | ok x =>
      replace h : addRange v (first + 1) count (s.push first.toNat (v.knob, x)) = .ok s' := by
        simpa [addRange, hx, bind, Except.bind] using h
      obtain ⟨hsize, hframes⟩ := ih (by omega) h
      refine ⟨hsize.trans (by simp [push]), fun j es hj => ?_⟩
      -- the first frame has its entry already, and the rest of the range does not reach back to it
      by_cases hj' : j = first.toNat
      · have hfirst' : first = j := by omega
        have := hframes j (es.push (v.knob, x)) (by simp [push, Array.getElem?_modify, ← hj', hj])
        rw [if_neg (by omega)] at this
        rw [if_pos (by omega)]
        exact ⟨x, hfirst' ▸ hx, this⟩
      · have := hframes j es (by simp [push, Array.getElem?_modify, Ne.symm hj', hj])
        have hiff : (first + 1 ≤ (j : Int) ∧ (j : Int) < first + 1 + count) ↔
            (first ≤ (j : Int) ∧ (j : Int) < first + (count + 1 : Nat)) := by omega
        simpa only [hiff] using this

theorem Lists.add {n : Int} {vs : List (Vary α)} {s s' : KnobSchedule α} {v : Vary α}
    (hs : Lists n vs s) (h : add n s v = .ok s') : Lists n (vs ++ [v]) s' := by
  unfold KnobSchedule.add at h
  split at h
  · cases h
  · rename_i hrange
    obtain ⟨hsize, hframes⟩ := addRange_spec (by omega) h
    refine ⟨hsize.trans hs.size, ?_, fun j es' hj' => ?_⟩
    · simp only [List.mem_append, List.mem_singleton]
      rintro w (hw | rfl)
      · exact hs.within w hw
      · omega
    obtain ⟨es, hj⟩ : ∃ es, s.frames[j]? = some es := by
      obtain ⟨hlt, -⟩ := Array.getElem?_eq_some_iff.1 hj'
      exact ⟨_, Array.getElem?_eq_getElem (hsize ▸ hlt)⟩
    have hes := hs.entries j es hj
    have hstep := hframes j es hj
    -- the frames that are gone through are those of the range
    have hcovers : (v.startFrame ≤ (j : Int) ∧
        (j : Int) < v.startFrame + (v.endFrame + 1 - v.startFrame).toNat) ↔ v.Covers j := by
      unfold Vary.Covers
      omega
    rw [List.filter_append]
    by_cases hv : v.Covers j
    · rw [if_pos (hcovers.2 hv)] at hstep
      obtain ⟨x, hx, hj''⟩ := hstep
      obtain rfl : es' = es.push (v.knob, x) := Option.some.inj (hj'.symm.trans hj'')
      rw [List.filter_cons_of_pos (by simpa using hv), Array.toList_push]
      exact List.rel_append hes (.cons ⟨rfl, hx⟩ .nil)
    · rw [if_neg (fun h => hv (hcovers.1 h))] at hstep
      obtain rfl : es' = es := Option.some.inj (hj'.symm.trans hstep)
      rw [List.filter_cons_of_neg (by simpa using hv), List.filter_nil, List.append_nil]
      exact hes

/-- **The schedule of a script lists the ranges of the script.** -/
theorem lists_ofOperations {ops : List (Operation α)} {n : Int} {s : KnobSchedule α}
    (h : ofOperations ops n = .ok s) : Lists n (varies ops) s := by
  -- the induction is on the ranges to come, with `vs` those that are listed already
  have go (vs ws : List (Vary α)) (s₀ : KnobSchedule α) (hs₀ : Lists n vs s₀)
      (h : ws.foldlM (KnobSchedule.add n) s₀ = .ok s) : Lists n (vs ++ ws) s := by
    induction ws generalizing vs s₀ with
    | nil =>
      cases h
      rwa [List.append_nil]
    | cons w ws ih =>
      rw [List.foldlM_cons] at h
      cases hw : KnobSchedule.add n s₀ w with
      | error => rw [hw] at h; cases h
      | ok s₁ =>
        rw [hw] at h
        have := ih (vs ++ [w]) s₁ (hs₀.add hw) h
        rwa [List.append_assoc, List.singleton_append] at this
  exact go [] (varies ops) (empty n) (lists_empty n) h

/-! ### The last entry of a knob -/

theorem lastValue_of_forall₂ {j : Int} {vs : List (Vary α)} {es : List (KnobEntry α)}
    (h : List.Forall₂ (IsEntry j) vs es) (name : String) :
    match (vs.filter (·.knob = name)).getLast? with
    | some v => ∃ x, v.valueAt j = .ok x ∧ lastValue es name = some x
    | none => lastValue es name = none := by
  induction h with
  | nil => rfl
  | @cons v e vs es hentry _ ih =>
    rw [getLast?_filter_cons, lastValue_cons]
    cases hlast : (vs.filter (·.knob = name)).getLast? with
    | some w =>
      rw [hlast] at ih
      obtain ⟨x, hx, hes⟩ := ih
      exact ⟨x, hx, by rw [hes]; rfl⟩
    | none =>
      rw [hlast] at ih
      obtain ⟨hknob, hvalue⟩ := hentry
      rw [ih, Option.none_or, Option.none_or, ← hknob]
      by_cases hv : v.knob = name
      · simp only [hv, decide_true, ↓reduceIte]
        exact ⟨e.2, hvalue, rfl⟩
      · simp only [hv, decide_false, Bool.false_eq_true, ↓reduceIte]

/-! ### Frame after frame -/

variable {n : Int} {vs : List (Vary α)} {s : KnobSchedule α} {f : Nat} {name : String}

theorem Lists.nonneg_of_varyAt (hs : Lists n vs s) {j : Int} {v : Vary α}
    (hv : varyAt vs name j = some v) : 0 ≤ j := by
  have hmem := List.mem_of_mem_filter (List.mem_of_getLast? hv)
  obtain ⟨hmem, hcovers⟩ := List.mem_filter.1 hmem
  exact Int.le_trans (hs.within v hmem).1 (of_decide_eq_true hcovers).1

/-- One more frame gives a knob the value of its last range there, or leaves it. -/
theorem Lists.knob?_succ (hs : Lists n vs s) (hf : f < n) (t : SymbolTable α) (name : String) :
    match varyAt vs name f with
    | some v => ∃ x, v.valueAt f = .ok x ∧ (s.tableAfter t (f + 1)).knob? name = some x
    | none => (s.tableAfter t (f + 1)).knob? name = (s.tableAfter t f).knob? name := by
  obtain ⟨es, hes⟩ : ∃ es, s.frames[f]? = some es :=
    ⟨_, Array.getElem?_eq_getElem (by rw [hs.size]; omega)⟩
  have hlast := lastValue_of_forall₂ (hs.entries f es hes) name
  rw [tableAfter_succ hes t, knob?_applyEntries]
  change match varyAt vs name f with
    | some v => ∃ x, v.valueAt f = .ok x ∧ lastValue es.toList name = some x
    | none => lastValue es.toList name = none at hlast
  cases hv : varyAt vs name f with
  | some v =>
    rw [hv] at hlast
    obtain ⟨x, hx, hlast⟩ := hlast
    exact ⟨x, hx, by rw [hlast]; rfl⟩
  | none =>
    rw [hv] at hlast
    rw [hlast, Option.none_or]

/-- **A knob holds the value of the last frame in which it varied**: that of the last range that
covers it. -/
theorem Lists.knob?_of_covered (hs : Lists n vs s) (hf : f < n) (t : SymbolTable α) {j : Nat}
    (hj : j ≤ f) {v : Vary α} (hv : varyAt vs name j = some v)
    (hlater : ∀ i : Nat, j < i → i ≤ f → varyAt vs name i = none) :
    ∃ x, v.valueAt j = .ok x ∧ (s.tableAfter t (f + 1)).knob? name = some x := by
  induction f with
  | zero =>
    obtain rfl := Nat.le_zero.1 hj
    have := hs.knob?_succ hf t name
    rwa [hv] at this
  | succ f ih =>
    have := hs.knob?_succ hf t name
    rcases Nat.lt_or_ge f j with hlt | hge
    · obtain rfl : j = f + 1 := by omega
      rwa [hv] at this
    · -- the knob has varied before and does not in this frame
      rw [hlater (f + 1) (by omega) (Nat.le_refl _)] at this
      rw [this]
      exact ih (by omega) hge fun i h1 h2 => hlater i h1 (by omega)

theorem Lists.knob?_of_uncovered (hs : Lists n vs s) (hf : f ≤ n) (t : SymbolTable α)
    (hnone : ∀ j < f, varyAt vs name j = none) :
    (s.tableAfter t f).knob? name = t.knob? name := by
  induction f with
  | zero => rfl
  | succ f ih =>
    have hstep := hs.knob?_succ (f := f) (by omega) t name
    rw [hnone f (Nat.lt_succ_self f)] at hstep
    exact hstep.trans (ih (by omega) fun j hj => hnone j (Nat.lt_succ_of_lt hj))

/-! ### From the table that a script finds -/

variable [Zero α] {ops : List (Operation α)}

/-- A knob that has not varied yet holds what it held before the script, or zero when only the
script names it. -/
theorem Lists.knob?_declared (hs : Lists n (varies ops) s) (hf : f ≤ n) (t : SymbolTable α)
    (hnone : ∀ j < f, varyAt (varies ops) name j = none) :
    (s.tableAfter (t.declareKnobs ops).1 f).knob? name =
      (t.knob? name).or (if ∃ op ∈ ops, op.knob? = some name then some 0 else none) := by
  rw [hs.knob?_of_uncovered hf _ hnone, knob?_declareKnobs]

theorem Lists.knob?_of_unnamed (hs : Lists n (varies ops) s) (hf : f ≤ n) (t : SymbolTable α)
    (hunnamed : ∀ op ∈ ops, op.knob? ≠ some name) :
    (s.tableAfter (t.declareKnobs ops).1 f).knob? name = t.knob? name := by
  have hnobody : ¬ ∃ op ∈ ops, op.knob? = some name := by
    rintro ⟨op, hop, hname⟩
    exact hunnamed op hop hname
  rw [hs.knob?_declared hf t fun j _ => varyAt_of_unnamed hunnamed j, if_neg hnobody,
    Option.or_none]

omit [Add α] [Sub α] [Mul α] [Div α] [OfInteger α] in
theorem constants_declared (s : KnobSchedule α) (t : SymbolTable α) (ops : List (Operation α))
    (f : Nat) : (s.tableAfter (t.declareKnobs ops).1 f).constants = t.constants := by
  rw [constants_tableAfter, constants_declareKnobs]

end KnobSchedule

end Flipbook
