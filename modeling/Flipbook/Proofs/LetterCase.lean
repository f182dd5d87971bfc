import Flipbook.Geometry.Matrix
import Flipbook.Text.Case
import Mathlib.Data.List.Basic

/-!
# Letters in either case

Names are compared after a change of case: those of operations as capitals, those of axes as small
letters.  Capitals stay as they are (`Text.upper_eq_self`), and of all characters only a letter of
an axis and its capital are mapped to that letter (`Axis.lower_eq_iff`).  The case mappings are
tables, so both rest on what is checked of every run of them.
-/

namespace Flipbook

namespace Text

theorem mapCase_of_not_covers {runs : Array CaseRun} {expansions : Array (Nat × List Nat)}
    {c : Char} (hexpansions : ∀ e ∈ expansions, e.1 ≠ c.toNat)
    (hruns : ∀ run ∈ runs, run.first ≤ c.toNat → ¬c.toNat ≤ run.last) :
    mapCase runs expansions c = [c] := by
  have hnone : expansions.find? (·.1 == c.toNat) = none :=
    Array.find?_eq_none.2 fun e he heq => hexpansions e he (beq_iff_eq.1 heq)
  have hstill : runs.find? (·.covers c) = none := by
    refine Array.find?_eq_none.2 fun run hrun hcovers => ?_
    simp only [CaseRun.covers, Bool.and_eq_true, decide_eq_true_eq] at hcovers
    exact hruns run hrun hcovers.1.1 hcovers.1.2
  simp only [mapCase, hnone, hstill]

/-! ### Capitals -/

theorem first_upperRuns : ∀ run ∈ upperRuns, 97 ≤ run.first := by
  simp only [← Array.mem_toList_iff]
  decide +kernel

theorem first_upperExpansions : ∀ e ∈ upperExpansions, 97 ≤ e.1 := by
  simp only [← Array.mem_toList_iff]
  decide +kernel

theorem mapCase_upper_of_lt {c : Char} (hc : c.toNat < 97) :
    mapCase upperRuns upperExpansions c = [c] := by
  refine mapCase_of_not_covers (fun e he => ?_) fun run hrun => ?_
  · have := first_upperExpansions e he
    omega
  · have := first_upperRuns run hrun
    omega

theorem upper_eq_self {s : String} (hs : ∀ c ∈ s.toList, c.toNat < 97) : upper s = s := by
  have hstill : s.toList.flatMap (mapCase upperRuns upperExpansions) = s.toList :=
    (List.flatMap_congr fun c hc => mapCase_upper_of_lt (hs c hc)).trans
      (List.flatMap_singleton' _)
  rw [upper, hstill, String.ofList_toList]

/-! ### Letters of axes -/

/-- The code points of the letters x, y and z. -/
def lastLetters : List Nat := [120, 121, 122]

theorem length_lowerExpansions : ∀ e ∈ lowerExpansions, 2 ≤ e.2.length := by
  simp only [← Array.mem_toList_iff]
  decide

/-- Of the characters that move, only a capital letter moves to one of the last letters. -/
theorem shift_lowerRuns : ∀ run ∈ lowerRuns, ∀ l ∈ lastLetters,
    run.first ≤ l - run.shift → l - run.shift ≤ run.last → run.shift = 32 := by
  simp only [← Array.mem_toList_iff]
  decide +kernel

theorem still_lowerRuns : ∀ run ∈ lowerRuns, ∀ l ∈ lastLetters,
    run.first ≤ l → ¬l ≤ run.last := by
  simp only [← Array.mem_toList_iff]
  decide +kernel

theorem still_lowerExpansions : ∀ e ∈ lowerExpansions, e.1 ∉ lastLetters := by
  simp only [← Array.mem_toList_iff]
  decide +kernel

theorem lower_singleton {c : Char} (hc : c.toNat ∈ lastLetters) :
    lower (String.singleton c) = String.singleton c := by
  have hmap : mapCase lowerRuns lowerExpansions c = [c] :=
    mapCase_of_not_covers (fun e he heq => still_lowerExpansions e he (heq ▸ hc))
      fun run hrun => still_lowerRuns run hrun c.toNat hc
  have hsigma : (c == 'Σ') = false := by
    rw [beq_eq_false_iff_ne]
    rintro rfl
    exact absurd hc (by decide)
  simp [lower, lowerFrom, hmap, hsigma]

theorem mapCase_ne_nil (c : Char) : mapCase lowerRuns lowerExpansions c ≠ [] := by
  unfold mapCase
  split
  · rename_i cs hfind
    have hlong := length_lowerExpansions _ (Array.mem_of_find?_eq_some hfind)
    intro hnil
    rw [List.map_eq_nil_iff.1 hnil] at hlong
    cases hlong
  · split <;> simp

theorem lowerFrom_eq_nil_iff {b : Bool} {cs : List Char} : lowerFrom b cs = [] ↔ cs = [] := by
  cases cs with
  | nil => simp [lowerFrom]
  | cons c cs =>
    rw [lowerFrom]
    split <;> simp [mapCase_ne_nil]

theorem toNat_of_ofNat_eq {n : Nat} {c : Char} (h : Char.ofNat n = c) (hc : c.toNat ≠ 0) :
    n = c.toNat := by
  subst h
  by_cases hvalid : n.isValidChar
  · have hchar : Char.ofNat n = Char.ofNatAux n hvalid := dif_pos hvalid
    rw [hchar]
    rfl
  · have hnull : (Char.ofNat n).toNat = 0 := congrArg Char.toNat (dif_neg hvalid)
    exact absurd hnull hc

/-- The last letters come from themselves and from their capitals only. -/
theorem mapCase_eq_singleton {c l : Char} (hl : l.toNat ∈ lastLetters)
    (h : mapCase lowerRuns lowerExpansions c = [l]) : c = l ∨ c.toNat + 32 = l.toNat := by
  unfold mapCase at h
  split at h
  · rename_i cs hfind
    have hlong := length_lowerExpansions _ (Array.mem_of_find?_eq_some hfind)
    have hlength := congrArg List.length h
    rw [List.length_map, List.length_singleton] at hlength
    rw [hlength] at hlong
    exact absurd hlong (by decide)
  · split at h
    · rename_i run hfind
      have hcovers := Array.find?_some hfind
      simp only [CaseRun.covers, Bool.and_eq_true, decide_eq_true_eq] at hcovers
      obtain ⟨⟨hfirst, hlast⟩, -⟩ := hcovers
      have hpos : l.toNat ≠ 0 := by
        intro hzero
        rw [hzero] at hl
        exact absurd hl (by decide)
      have hmoved := toNat_of_ofNat_eq (List.singleton_inj.1 h) hpos
      have hshift := shift_lowerRuns run (Array.mem_of_find?_eq_some hfind) l.toNat hl (by omega)
        (by omega)
      exact .inr (by omega)
    · exact .inl (List.singleton_inj.1 h)

theorem lowerFrom_eq_singleton {b : Bool} {cs : List Char} {l : Char}
    (hl : l.toNat ∈ lastLetters) (h : lowerFrom b cs = [l]) :
    ∃ c, cs = [c] ∧ (c = l ∨ c.toNat + 32 = l.toNat) := by
  cases cs with
  | nil => cases h
  | cons c cs =>
    rw [lowerFrom] at h
    -- the first character gives the letter, and the others give nothing
    obtain ⟨hhere, hrest⟩ | ⟨hhere, -⟩ := List.append_eq_singleton_iff.1 h |>.symm
    · refine ⟨c, by rw [lowerFrom_eq_nil_iff.1 hrest], ?_⟩
      split at hhere
      · rw [← List.singleton_inj.1 hhere] at hl
        refine absurd hl ?_
        split <;> decide
      · exact mapCase_eq_singleton hl hhere
    · split at hhere
      · cases hhere
      · exact absurd hhere (mapCase_ne_nil c)

end Text

namespace Axis

/-- The letter of an axis. -/
def letter : Axis → Char
  | x => 'x'
  | y => 'y'
  | z => 'z'

/-- The letter as a capital. -/
def capital : Axis → Char
  | x => 'X'
  | y => 'Y'
  | z => 'Z'

/-- The text is the letter of the axis, small or capital. -/
def IsNamed (a : Axis) (s : String) : Prop :=
  s = String.singleton a.letter ∨ s = String.singleton a.capital

theorem lower_eq_iff (a : Axis) (s : String) :
    Text.lower s = String.singleton a.letter ↔ a.IsNamed s := by
  have hletter : a.letter.toNat ∈ Text.lastLetters := by cases a <;> decide
  constructor
  · intro h
    have hlist : Text.lowerFrom false s.toList = [a.letter] := by
      have := congrArg String.toList h
      simpa [Text.lower] using this
    obtain ⟨c, hc, hcase⟩ := Text.lowerFrom_eq_singleton hletter hlist
    have hs : s = String.singleton c := by
      rw [← String.ofList_toList (s := s), hc]
      rfl
    refine hcase.imp (fun h => by rw [hs, h]) fun h => ?_
    have hcapital : c.toNat = a.capital.toNat := by
      cases a <;> exact Nat.add_right_cancel h
    rw [hs, Char.toNat_inj.1 hcapital]
  · rintro (rfl | rfl)
    · exact Text.lower_singleton hletter
    · cases a <;> decide +kernel

end Axis

end Flipbook
