import Flipbook.Timeline.Config
import Flipbook.Timeline.Schedule
import Mathlib.Data.List.Induction

/-!
# What a script says last

A script is read once from its start to its end, and what it says about its animation may be taken
back by what it says later.  Still it needs no reading in order to know what comes out: what counts
is the number of frames that is set last, the name that is given last, and whether some knob varies
(`AnimationConfig.scan_spec`).  Where the operations stand that say so, and what stands between
them, makes no difference (`AnimationConfig.decided_by_last_words`).
-/

namespace Flipbook

namespace Operation

variable {α : Type}

/-- The number of frames that the operation sets. -/
def frameCount? : Operation α → Option Int
  | frames count => some count
  | _ => none

/-- The name that the operation gives to the animation. -/
def basename? : Operation α → Option String
  | basename name => some name
  | _ => none

end Operation

namespace AnimationConfig

variable {α : Type}

/-- The number of frames that is set last, zero where none is. -/
def lastFrameCount (ops : List (Operation α)) : Int :=
  (ops.filterMap Operation.frameCount?).getLast?.getD 0

/-- The name that is given last, empty where none is. -/
def lastBasename (ops : List (Operation α)) : String :=
  (ops.filterMap Operation.basename?).getLast?.getD ""

/-- Some knob varies. -/
def SomeVaries (ops : List (Operation α)) : Prop := ∃ v, Operation.vary v ∈ ops

/-! ### One more operation -/

theorem scan_concat (ops : List (Operation α)) (op : Operation α) :
    scan (ops ++ [op]) = (scan ops).next op := by
  simp only [scan, List.foldl_append, List.foldl_cons, List.foldl_nil]

theorem getLast?_filterMap_concat {β : Type} (f : Operation α → Option β)
    (ops : List (Operation α)) (op : Operation α) :
    ((ops ++ [op]).filterMap f).getLast? = (f op).or (ops.filterMap f).getLast? := by
  rw [List.filterMap_append, List.getLast?_append]
  cases hop : f op with
  | none => rw [List.filterMap_cons_none hop]; rfl
  | some b => rw [List.filterMap_cons_some hop]; rfl

theorem lastFrameCount_concat (ops : List (Operation α)) (op : Operation α) :
    lastFrameCount (ops ++ [op]) = op.frameCount?.getD (lastFrameCount ops) := by
  rw [lastFrameCount, getLast?_filterMap_concat]
  cases op.frameCount? <;> rfl

theorem lastBasename_concat (ops : List (Operation α)) (op : Operation α) :
    lastBasename (ops ++ [op]) = op.basename?.getD (lastBasename ops) := by
  rw [lastBasename, getLast?_filterMap_concat]
  cases op.basename? <;> rfl

theorem someVaries_concat (ops : List (Operation α)) (op : Operation α) :
    SomeVaries (ops ++ [op]) ↔ SomeVaries ops ∨ ∃ v, op = .vary v := by
  simp only [SomeVaries, List.mem_append, List.mem_singleton, exists_or, eq_comm]

/-! ### The whole script -/

/-- **What a script has said in the end** is what it says last. -/
theorem scan_spec (ops : List (Operation α)) :
    (scan ops).frameCount = lastFrameCount ops ∧ (scan ops).basename = lastBasename ops ∧
      ((scan ops).hasVary = true ↔ SomeVaries ops) := by
  induction ops using List.reverseRecOn with
  | nil =>
    refine ⟨rfl, rfl, iff_of_false Bool.false_ne_true ?_⟩
    rintro ⟨v, hv⟩
    cases hv
  | append_singleton ops op ih =>
    obtain ⟨hcount, hname, hvary⟩ := ih
    rw [scan_concat, lastFrameCount_concat, lastBasename_concat, someVaries_concat]
    cases op <;>
      simp [Scan.next, Operation.frameCount?, Operation.basename?, hcount, hname, hvary]

theorem varies_eq_nil {ops : List (Operation α)} (h : ¬ SomeVaries ops) :
    KnobSchedule.varies ops = [] := by
  rw [KnobSchedule.varies, List.filterMap_eq_nil_iff]
  intro op hop
  cases op with
  | vary v => exact absurd ⟨v, hop⟩ h
  | _ => rfl

/-- A script has no animation, because knobs vary over a number of frames that is missing, or the
one that it describes last. -/
theorem ofOperations_cases (ops : List (Operation α)) (name : String) :
    (SomeVaries ops ∧ lastFrameCount ops ≤ 0) ∧
        ofOperations ops name = .error .missingFrameCount ∨
      ¬(SomeVaries ops ∧ lastFrameCount ops ≤ 0) ∧
        ∃ c told, ofOperations ops name = .ok (c, told) ∧
          c.frameCount = max (lastFrameCount ops) 1 ∧ (c.hasVary = true ↔ SomeVaries ops) ∧
          c.basename =
            if lastBasename ops ≠ "" ∨ lastFrameCount ops ≤ 0 then lastBasename ops else name := by
  obtain ⟨hcount, hname, hvary⟩ := scan_spec ops
  have hcondition : (scan ops).hasVary = true ∧ (scan ops).frameCount ≤ 0 ↔
      SomeVaries ops ∧ lastFrameCount ops ≤ 0 := by rw [hvary, hcount]
  unfold ofOperations
  dsimp only
  by_cases hmissing : SomeVaries ops ∧ lastFrameCount ops ≤ 0
  · rw [if_pos (hcondition.2 hmissing)]
    exact .inl ⟨hmissing, rfl⟩
  · rw [if_neg (mt hcondition.1 hmissing)]
    refine .inr ⟨hmissing, _, _, rfl, by rw [hcount], hvary, ?_⟩
    -- the default name is taken where there is a number of frames and no name
    rw [hcount, hname]
    by_cases hdefault : 0 < lastFrameCount ops ∧ lastBasename ops = ""
    · rw [if_pos hdefault, if_neg]
      rintro (hne | hle)
      · exact hne hdefault.2
      · omega
    · rw [if_neg hdefault, if_pos]
      by_cases hne : lastBasename ops = ""
      · exact .inr (Int.not_lt.1 fun hpos => hdefault ⟨hpos, hne⟩)
      · exact .inl hne

/-- Scripts that say the same last have said the same. -/
theorem scan_congr {ops ops' : List (Operation α)}
    (hcount : lastFrameCount ops' = lastFrameCount ops)
    (hname : lastBasename ops' = lastBasename ops) (hvary : SomeVaries ops' ↔ SomeVaries ops) :
    scan ops' = scan ops := by
  obtain ⟨hcount₁, hname₁, hvary₁⟩ := scan_spec ops
  obtain ⟨hcount₂, hname₂, hvary₂⟩ := scan_spec ops'
  have hvaries : (scan ops').hasVary = (scan ops).hasVary :=
    Bool.eq_iff_iff.2 (hvary₂.trans (hvary.trans hvary₁.symm))
  cases hs : scan ops with
  | mk F B V =>
    cases hs' : scan ops' with
    | mk F' B' V' =>
      rw [hs] at hcount₁ hname₁ hvaries
      rw [hs'] at hcount₂ hname₂ hvaries
      exact congr (congr (congrArg Scan.mk (hcount₂.trans (hcount.trans hcount₁.symm)))
        (hname₂.trans (hname.trans hname₁.symm))) hvaries

/-- **The animation of a script is decided by what the script says last.**  Knobs that vary over a
number of frames that is missing are its only fault; otherwise its frames are counted from one on,
it has a name where it has several frames, and a schedule where nothing varies.  Scripts that say
the same last have the same animation. -/
theorem decided_by_last_words [Add α] [Sub α] [Mul α] [Div α] [OfInteger α]
    (ops : List (Operation α)) (name : String) :
    let F := lastFrameCount ops
    let B := lastBasename ops
    (ofOperations ops name = .error .missingFrameCount ↔ SomeVaries ops ∧ F ≤ 0) ∧
    (¬(SomeVaries ops ∧ F ≤ 0) → ∃ c told, ofOperations ops name = .ok (c, told) ∧
      c.frameCount = max F 1 ∧ (c.hasVary = true ↔ SomeVaries ops) ∧
      c.basename = if B ≠ "" ∨ F ≤ 0 then B else name) ∧
    (∀ c told, ofOperations ops name = .ok (c, told) →
      1 ≤ c.frameCount ∧
      (name ≠ "" → c.isAnimation = true → c.basename ≠ "") ∧
      (¬SomeVaries ops →
        KnobSchedule.ofOperations ops c.frameCount = .ok (.empty c.frameCount))) ∧
    ∀ ops' : List (Operation α), lastFrameCount ops' = F → lastBasename ops' = B →
      (SomeVaries ops' ↔ SomeVaries ops) → ofOperations ops' name = ofOperations ops name := by
  intro F B
  have hsame (ops' : List (Operation α)) (hcount : lastFrameCount ops' = F)
      (hname : lastBasename ops' = B) (hvary : SomeVaries ops' ↔ SomeVaries ops) :
      ofOperations ops' name = ofOperations ops name := by
    unfold ofOperations
    rw [scan_congr hcount hname hvary]
  rcases ofOperations_cases ops name with ⟨hmissing, hfault⟩ | ⟨hcounted, c, told, hok, hc⟩
  · refine ⟨iff_of_true hfault hmissing, fun hcounted => absurd hmissing hcounted, ?_, hsame⟩
    intro c told hok
    rw [hfault] at hok
    cases hok
  · refine ⟨iff_of_false (by rw [hok]; exact nofun) hcounted, fun _ => ⟨c, told, hok, hc⟩, ?_,
      hsame⟩
    intro c' told' hok'
    obtain ⟨rfl, rfl⟩ := Prod.mk.inj (Except.ok.inj (hok.symm.trans hok'))
    obtain ⟨hcount, -, hbasename⟩ := hc
    refine ⟨by omega, fun hname hanimation => ?_, fun hstill => ?_⟩
    · have hseveral : 1 < c.frameCount := of_decide_eq_true hanimation
      rw [hbasename]
      by_cases hB : B = ""
      · have hdefault : ¬(B ≠ "" ∨ F ≤ 0) := by
          rintro (hne | hle)
          · exact hne hB
          · omega
        rw [if_neg hdefault]
        exact hname
      · rw [if_pos (.inl hB)]
        exact hB
    · rw [KnobSchedule.ofOperations, varies_eq_nil hstill]
      rfl

/-- A number of frames and a name that are taken back, in two orders. -/
theorem decided_by_last_words_taken_back :
    let ops : List (Operation Float) := [.frames 3, .basename "draft", .vary ⟨"turn", 0, 7, 0, 1⟩,
      .push, .frames 8, .basename ""]
    let ops' : List (Operation Float) := [.display, .frames 8, .vary ⟨"size", 2, 2, 0, 1⟩]
    lastFrameCount ops = 8 ∧ lastBasename ops = "" ∧ ¬(SomeVaries ops ∧ lastFrameCount ops ≤ 0) ∧
      ofOperations ops' "image" = ofOperations ops "image" ∧
      ∃ c told, ofOperations ops "image" = .ok (c, told) ∧ c = ⟨8, "image", true⟩ ∧
        c.isAnimation = true ∧ c.basename ≠ "" := by
  intro ops ops'
  have hcounted : ¬(SomeVaries ops ∧ lastFrameCount ops ≤ 0) := fun h => absurd h.2 (by decide)
  obtain ⟨-, hok, hresult, hsame⟩ := decided_by_last_words ops "image"
  obtain ⟨c, told, hc, hcount, hvary, hname⟩ := hok hcounted
  obtain ⟨-, hnamed, -⟩ := hresult c told hc
  have hvaries : SomeVaries ops := ⟨_, List.mem_cons_of_mem _ (List.mem_cons_of_mem _ (.head _))⟩
  have hvaries' : SomeVaries ops' := ⟨_, List.mem_cons_of_mem _ (List.mem_cons_of_mem _ (.head _))⟩
  have hconfig : c = ⟨8, "image", true⟩ := by
    obtain ⟨F, B, V⟩ := c
    simp only [AnimationConfig.mk.injEq]
    exact ⟨hcount, hname, hvary.2 hvaries⟩
  have hseveral : c.isAnimation = true := by
    rw [hconfig]
    rfl
  exact ⟨rfl, rfl, hcounted, hsame ops' rfl rfl (iff_of_true hvaries' hvaries), c, told, hc,
    hconfig, hseveral, hnamed (by decide) hseveral⟩

end AnimationConfig

end Flipbook
