import Flipbook.Proofs.Performance

/-!
# The stack of a performance

The current coordinate system of a performance is defined by looking back over the brackets of the
whole sequence.  A machine keeps a stack instead.  `Performance.stackBefore` is that stack, every
saved level included: level `l` holds the product of the transformations that stand at a level up
to `l` and below whose level the sequence has not fallen since.  The three ways in which a stack
changes are the three ways in which `stackBefore` changes from position to position, and its top
is the current coordinate system (`Performance.top_stackBefore`).
-/

namespace Flipbook

namespace Performance

open Nesting

variable {α σ : Type} (p : Performance α σ)

/-- The sequence has not fallen below the level of position `i` up to position `k`. -/
def Kept (k i : Nat) : Prop := ∀ m ≤ k, i < m → level p.operations i ≤ level p.operations m

instance (k i : Nat) : Decidable (p.Kept k i) := Nat.decidableBallLE ..

variable {p}

theorem Kept.level_le {k i : Nat} (h : p.Kept k i) (hi : i < k) :
    level p.operations i ≤ level p.operations k :=
  h k le_rfl hi

theorem kept_succ_iff {k i : Nat}
    (h : level p.operations i ≤ level p.operations (k + 1)) : p.Kept (k + 1) i ↔ p.Kept k i := by
  constructor
  · exact fun hk m hm him => hk m (by omega) him
  · intro hk m hm him
    rcases Nat.lt_or_ge k m with hlt | hge
    · obtain rfl : m = k + 1 := by omega
      exact h
    · exact hk m hge him

variable [Zero α] [One α] [Mul α] [Neg α] [Circular α] (p)

/-- The matrices, in order, that level `l` of the stack is made of before `k`. -/
def matricesUnder (k : Nat) (l : Int) : List (Matrix4 α) :=
  (List.range k).filterMap fun i =>
    if level p.operations i ≤ l ∧ p.Kept k i then p.matrixAt i else none

variable {p}

/-! ### Transformations and brackets -/

theorem matrixAt_eq_some {i : Nat} {m : Matrix4 α} (h : p.matrixAt i = some m) :
    ∃ op, p.operations[i]? = some op ∧ op.isPush = false ∧ op.isPop = false := by
  unfold matrixAt at h
  cases hop : p.operations[i]? with
  | none => simp [hop] at h
  | some op =>
    refine ⟨op, rfl, ?_⟩
    cases op <;> simp_all [matrix?, Operation.isPush, Operation.isPop]

theorem matrixAt_of_bracket {i : Nat} {op : Operation α} (h : p.operations[i]? = some op)
    (hb : op.isPush = true ∨ op.isPop = true) : p.matrixAt i = none := by
  cases hm : p.matrixAt i with
  | none => rfl
  | some m =>
    obtain ⟨op', hop', h1, h2⟩ := matrixAt_eq_some hm
    obtain rfl := Option.some.inj (h.symm.trans hop')
    simp_all

/-- A level that is open on both sides of a position gains what stands at the position itself. -/
theorem matricesUnder_succ {k : Nat} {l : Int} (hl : l ≤ level p.operations (k + 1)) :
    p.matricesUnder (k + 1) l = p.matricesUnder k l ++
      if level p.operations k ≤ l then (p.matrixAt k).toList else [] := by
  unfold matricesUnder
  rw [List.range_succ, List.filterMap_append]
  congr 1
  · -- one place more keeps what it does not fall below
    refine List.filterMap_congr fun i _ => ?_
    by_cases hil : level p.operations i ≤ l
    · simp only [kept_succ_iff (hil.trans hl)]
    · simp only [hil, false_and, ↓reduceIte]
  · by_cases hk : level p.operations k ≤ l
    · have hkept : p.Kept (k + 1) k := fun m hm hkm => by
        obtain rfl : m = k + 1 := by omega
        exact hk.trans hl
      simp only [List.filterMap_cons, List.filterMap_nil, hk, hkept, and_self, ↓reduceIte]
      cases p.matrixAt k <;> rfl
    · simp [hk]

theorem matricesUnder_of_le {k : Nat} {l : Int} (hl : level p.operations k ≤ l) :
    p.matricesUnder k l = p.matricesUnder k (level p.operations k) := by
  refine List.filterMap_congr fun i hi => ?_
  by_cases hk : p.Kept k i
  · have := hk.level_le (List.mem_range.1 hi)
    simp only [hk, this, this.trans hl]
  · simp only [hk, and_false]

/-! ### The stack before a position -/

variable [Add α] (p)

/-- The entry of level `l` before `k`. -/
def originAt (k : Nat) (l : Int) : Matrix4 α := (p.matricesUnder k l).foldl (· * ·) .identity

/-- The stack before `k`. -/
def stackBefore (k : Nat) : OriginStack (Matrix4 α) where
  top := p.originAt k (level p.operations k)
  below := (List.range (level p.operations k).toNat).reverse.map fun l : Nat => p.originAt k l

@[simp] theorem stackBefore_zero : p.stackBefore 0 = .single .identity := rfl

variable {p}

theorem depth_stackBefore {k : Nat} (hs : SoundBefore p.operations k) :
    (p.stackBefore k).depth =
      1 + pushes (p.operations.take k) - pops (p.operations.take k) := by
  have := hs k le_rfl
  simp only [OriginStack.depth, stackBefore, List.length_map, List.length_reverse,
    List.length_range, level]
  omega

/-- **The current coordinate system is what lies on top.** -/
theorem top_stackBefore {k : Nat} (hs : SoundBefore p.operations k) :
    (p.stackBefore k).top = p.topBefore k := by
  have same : p.matricesUnder k (level p.operations k) = p.matricesBefore k := by
    refine List.filterMap_congr fun i hi => ?_
    cases hm : p.matrixAt i with
    | none => simp
    | some m =>
      obtain ⟨op, hop, hpush, hpop⟩ := matrixAt_eq_some hm
      have hik := List.mem_range.1 hi
      -- on the current level, what is kept is what is not enclosed
      have hiff : (level p.operations i ≤ level p.operations k ∧ p.Kept k i) ↔
          ¬ EnclosedBefore p.operations k i := by
        rw [enclosedBefore_iff hs hop hpush hpop]
        push Not
        constructor
        · exact fun h m him hmk => h.2 m hmk him
        · exact fun h => ⟨h k hik le_rfl, fun m hmk him => h m him hmk⟩
      by_cases hen : EnclosedBefore p.operations k i
      · rw [if_pos hen, if_neg (fun h => hiff.1 h hen)]
      · rw [if_neg hen, if_pos (hiff.2 hen)]
  simp only [stackBefore, originAt, topBefore, same]

/-! ### The stack from position to position -/

variable {k : Nat} {op : Operation α}

theorem stackBefore_succ_of_neither (hop : p.operations[k]? = some op)
    (hpush : op.isPush = false) (hpop : op.isPop = false) :
    p.stackBefore (k + 1) = match p.matrixAt k with
      | some m => (p.stackBefore k).transform m
      | none => p.stackBefore k := by
  have hlevel := level_succ_of_neither hop hpush hpop
  -- a saved level lies below the operation and gains nothing from it
  have below (l : Nat) (hl : l < (level p.operations k).toNat) :
      p.originAt (k + 1) l = p.originAt k l := by
    unfold originAt
    rw [matricesUnder_succ (by omega), if_neg (by omega), List.append_nil]
  have hbelow : (p.stackBefore (k + 1)).below = (p.stackBefore k).below := by
    simp only [stackBefore, hlevel]
    refine List.map_congr_left fun l hl => below l ?_
    simpa using hl
  have htop : (p.stackBefore (k + 1)).top =
      ((p.matrixAt k).toList).foldl (· * ·) (p.stackBefore k).top := by
    simp only [stackBefore, originAt, hlevel]
    rw [matricesUnder_succ (by omega), if_pos le_rfl, List.foldl_append]
  cases hm : p.matrixAt k with
  | none =>
    rw [hm] at htop
    exact congrArg₂ OriginStack.mk htop hbelow
  | some m =>
    rw [hm] at htop
    exact congrArg₂ OriginStack.mk htop hbelow

theorem stackBefore_succ_of_push (hs : SoundBefore p.operations k)
    (hop : p.operations[k]? = some .push) : p.stackBefore (k + 1) = (p.stackBefore k).push := by
  have hlevel := level_succ_of_push hop
  have hopen : 0 ≤ level p.operations k := soundBefore_iff.1 hs k le_rfl
  have same {l : Int} (hl : l ≤ level p.operations k + 1) :
      p.originAt (k + 1) l = p.originAt k l := by
    unfold originAt
    rw [matricesUnder_succ (by omega), matrixAt_of_bracket hop (.inl rfl)]
    simp
  -- nothing stands on the new level yet, so it begins as the one below it
  have htop : p.originAt (k + 1) (level p.operations (k + 1)) =
      p.originAt k (level p.operations k) := by
    rw [same (by omega)]
    unfold originAt
    rw [matricesUnder_of_le (by omega)]
  have hbelow : (List.range (level p.operations (k + 1)).toNat).reverse.map
      (fun l : Nat => p.originAt (k + 1) l) =
        p.originAt k (level p.operations k) :: (p.stackBefore k).below := by
    rw [hlevel, Int.toNat_add hopen (by omega), Int.toNat_one, List.range_succ,
      List.reverse_append, List.reverse_singleton, List.singleton_append, List.map_cons,
      Int.toNat_of_nonneg hopen, same (by omega)]
    congr 1
    refine List.map_congr_left fun l hl => same ?_
    have := List.mem_range.1 (List.mem_reverse.1 hl)
    omega
  exact congrArg₂ OriginStack.mk htop hbelow

theorem pop?_stackBefore (hs : SoundBefore p.operations (k + 1))
    (hop : p.operations[k]? = some .pop) :
    (p.stackBefore k).pop? = some (p.stackBefore (k + 1)) := by
  have hlevel := level_succ_of_pop hop
  have hopen : 0 ≤ level p.operations (k + 1) := soundBefore_iff.1 hs (k + 1) le_rfl
  have same {l : Int} (hl : l ≤ level p.operations (k + 1)) :
      p.originAt k l = p.originAt (k + 1) l := by
    unfold originAt
    rw [matricesUnder_succ hl, matrixAt_of_bracket hop (.inr rfl)]
    simp
  have hbelow : (p.stackBefore k).below = p.originAt (k + 1) (level p.operations (k + 1)) ::
      (p.stackBefore (k + 1)).below := by
    simp only [stackBefore]
    rw [show level p.operations k = level p.operations (k + 1) + 1 by omega,
      Int.toNat_add hopen (by omega), Int.toNat_one, List.range_succ,
      List.reverse_append, List.reverse_singleton, List.singleton_append, List.map_cons,
      Int.toNat_of_nonneg hopen, same le_rfl]
    congr 1
    refine List.map_congr_left fun l hl => same ?_
    have := List.mem_range.1 (List.mem_reverse.1 hl)
    omega
  simp only [OriginStack.pop?, hbelow]
  rfl

/-- Where too much has been left before, nothing lies below the top. -/
theorem below_stackBefore (h : level p.operations k ≤ 0) : (p.stackBefore k).below = [] := by
  simp [stackBefore, Int.toNat_of_nonpos h]

end Performance

end Flipbook
