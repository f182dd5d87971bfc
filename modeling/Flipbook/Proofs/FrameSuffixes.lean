import Flipbook.Proofs.FrameNames

/-!
# The extensions that the names of frames end in

The name of a frame ends in a dot and an extension, and before the dot there is a number.  So what
counts as the extension of the path name does not depend on the animation and on the frame
(`FrameName.suffix_file`), and there is one unless the extension that was asked for is empty or ends
in a dot itself (`FrameName.suffix_file_ne_empty_iff`).
-/

namespace Flipbook

namespace Text

theorem zeroPaddedInt_ne_empty (width : Nat) (n : Int) : zeroPaddedInt width n ≠ "" := by
  unfold zeroPaddedInt
  split
  · intro h
    have hsign := congrArg String.toList h
    rw [String.toList_append, String.toList_empty, List.append_eq_nil_iff] at hsign
    exact absurd hsign.1 (by decide)
  · exact zeroPadded_ne_empty width _

theorem slash_notMem_zeroPaddedInt (width : Nat) (n : Int) :
    '/' ∉ (zeroPaddedInt width n).toList := by
  unfold zeroPaddedInt
  split
  · rw [String.toList_append, List.mem_append]
    rintro (h | h)
    · exact absurd h (by decide)
    · exact absurd (isDigit_of_mem_zeroPadded h) (by decide)
  · intro h
    exact absurd (isDigit_of_mem_zeroPadded h) (by decide)

end Text

namespace PathName

/-! ### The last dot -/

theorem exists_lastDot (ext : List Char) : ∃ a r, '.' :: ext = a ++ '.' :: r ∧ '.' ∉ r := by
  have hdot : '.' ∈ ('.' :: ext).reverse := List.mem_reverse.2 List.mem_cons_self
  obtain ⟨r, a, heq, hr⟩ := List.eq_append_cons_of_mem hdot
  refine ⟨a.reverse, r.reverse, ?_, fun h => hr (List.mem_reverse.1 h)⟩
  have hback := congrArg List.reverse heq
  rwa [List.reverse_reverse, List.reverse_append, List.reverse_cons, List.append_assoc,
    List.singleton_append] at hback

theorem suffixOf_dot (stem : List Char) : suffixOf (String.ofList (stem ++ ['.'])) = "" := by
  have hafter : (stem ++ ['.']).reverse.takeWhile (· != '.') = [] := by simp
  unfold suffixOf
  simp only [String.toList_ofList, hafter, List.isEmpty_nil, Bool.true_or, ↓reduceIte]

theorem suffixOf_lastDot {stem r : List Char} (hstem : stem ≠ []) (hr : '.' ∉ r) :
    suffixOf (String.ofList (stem ++ '.' :: r)) =
      if r = [] then "" else "." ++ String.ofList r := by
  by_cases hnone : r = []
  · rw [if_pos hnone, hnone]
    exact suffixOf_dot stem
  · have hname : String.ofList (stem ++ '.' :: r) =
        String.ofList stem ++ "." ++ String.ofList r := by
      simp [← String.toList_inj]
    rw [if_neg hnone, hname, suffixOf_append]
    · simpa using hstem
    · simpa using hnone
    · rwa [String.toList_ofList]

theorem suffixOf_congr {stem stem' : List Char} (h : stem ≠ []) (h' : stem' ≠ [])
    (ext : List Char) : suffixOf (String.ofList (stem ++ '.' :: ext)) =
      suffixOf (String.ofList (stem' ++ '.' :: ext)) := by
  obtain ⟨a, r, heq, hr⟩ := exists_lastDot ext
  rw [heq, ← List.append_assoc, ← List.append_assoc,
    suffixOf_lastDot (by simp [h]) hr, suffixOf_lastDot (by simp [h']) hr]

theorem suffixOf_ne_empty_iff {stem : List Char} (h : stem ≠ []) (ext : List Char) :
    suffixOf (String.ofList (stem ++ '.' :: ext)) ≠ "" ↔ ext ≠ [] ∧ ext.getLast? ≠ some '.' := by
  obtain ⟨a, r, heq, hr⟩ := exists_lastDot ext
  -- both sides ask for the last character, where a dot stands for none
  have hlast : ext.getLast?.getD '.' = r.getLast?.getD '.' := by
    have := congrArg List.getLast? heq
    simpa [List.getLast?_cons, List.getLast?_append] using this
  have hext : ext ≠ [] ∧ ext.getLast? ≠ some '.' ↔ ext.getLast?.getD '.' ≠ '.' := by
    cases ext.eq_nil_or_concat with
    | inl hnil => simp [hnil]
    | inr hconcat => obtain ⟨l, c, rfl⟩ := hconcat; simp
  have hrest : r = [] ↔ r.getLast?.getD '.' = '.' := by
    cases r.eq_nil_or_concat with
    | inl hnil => simp [hnil]
    | inr hconcat =>
      obtain ⟨l, c, rfl⟩ := hconcat
      have hc : c ≠ '.' := fun hc => hr (by rw [hc, List.concat_eq_append]; simp)
      simp [hc]
  rw [heq, ← List.append_assoc, suffixOf_lastDot (by simp [h]) hr, hext, hlast, Ne, Ne, ← hrest]
  by_cases hnone : r = []
  · simp [hnone]
  · simp [hnone]

/-! ### Texts in pieces -/

theorem pieces_append_of_notMem {a s q : List Char} {qs : List (List Char)} (ha : '/' ∉ a)
    (h : pieces s = q :: qs) : pieces (a ++ s) = (a ++ q) :: qs := by
  induction a with
  | nil => exact h
  | cons c a ih =>
    rw [List.mem_cons, not_or] at ha
    exact pieces_cons (Ne.symm ha.1) (ih ha.2)

theorem name_ofString {s : String} {before after : List (List Char)} {p : List Char}
    (h : pieces s.toList = before ++ p :: after) (hp : isPart p = true) :
    (ofString s).name = String.ofList ((after.filter isPart).getLast?.getD p) := by
  rw [name, ofString_eq, h, List.filter_append, List.filter_cons_of_pos hp, List.getLast?_map,
    List.getLast?_append, List.getLast?_cons]
  rfl

end PathName

namespace FrameName

open PathName

theorem exists_pieces_file (basename number : String) (hnumber : '/' ∉ number.toList)
    {ext : String} {q : List Char} {qs : List (List Char)} (hext : pieces ext.toList = q :: qs) :
    ∃ before stem, pieces (basename ++ number ++ "." ++ ext).toList =
      before ++ (stem ++ number.toList ++ '.' :: q) :: qs := by
  obtain ⟨before, stem, hlengthened⟩ := exists_pieces_lengthened basename.toList
  have hdot : pieces ('.' :: ext.toList) = ('.' :: q) :: qs := pieces_cons (by decide) hext
  have hrest : pieces (number.toList ++ '.' :: ext.toList) = (number.toList ++ '.' :: q) :: qs :=
    pieces_append_of_notMem hnumber hdot
  refine ⟨before, stem, ?_⟩
  simpa using hlengthened hrest

/-- The last part of the name of a frame: a later piece of the extension, or else the piece with the
number. -/
theorem exists_name_file (basename number : String) (hne : number ≠ "")
    (hnumber : '/' ∉ number.toList) {ext : String} {q : List Char} {qs : List (List Char)}
    (hext : pieces ext.toList = q :: qs) :
    ∃ stem, stem ≠ [] ∧ (ofString (basename ++ number ++ "." ++ ext)).name =
      String.ofList ((qs.filter isPart).getLast?.getD (stem ++ '.' :: q)) := by
  obtain ⟨before, stem, hpieces⟩ := exists_pieces_file basename number hnumber hext
  have hstem : stem ++ number.toList ≠ [] := by
    simpa using fun _ => hne
  have hpart : isPart (stem ++ number.toList ++ '.' :: q) = true := by
    obtain ⟨c, cs, hcons⟩ := List.exists_cons_of_ne_nil hstem
    simp [isPart, hcons]
  exact ⟨stem ++ number.toList, hstem, name_ofString hpieces hpart⟩

/-- What the name of a frame has for an extension does not depend on the animation and on the
frame. -/
theorem suffix_file (basename : String) (index : Int) (ext defaultExt : String) :
    (ofString (file basename index ext defaultExt)).suffix =
      (ofString ("0." ++ extension ext defaultExt)).suffix := by
  obtain ⟨q, qs, hext⟩ := exists_pieces (extension ext defaultExt).toList
  obtain ⟨stem, hstem, hfile⟩ := exists_name_file basename (Text.zeroPaddedInt 3 index)
    (Text.zeroPaddedInt_ne_empty 3 index) (Text.slash_notMem_zeroPaddedInt 3 index) hext
  obtain ⟨stem', hstem', hplain⟩ := exists_name_file "" "0" (by decide) (by decide) hext
  have hzero : "" ++ "0" ++ "." = "0." := by decide
  rw [hzero] at hplain
  unfold suffix file
  rw [hfile, hplain]
  cases (qs.filter isPart).getLast? with
  | none => exact suffixOf_congr hstem hstem' q
  | some last => rfl

/-- The name of a frame has an extension exactly when the one that was asked for is not empty and
does not end in a dot, as long as that has no slash. -/
theorem suffix_file_ne_empty_iff {ext defaultExt : String}
    (hslash : '/' ∉ (extension ext defaultExt).toList) (basename : String) (index : Int) :
    (ofString (file basename index ext defaultExt)).suffix ≠ "" ↔
      extension ext defaultExt ≠ "" ∧ (extension ext defaultExt).toList.getLast? ≠ some '.' := by
  obtain ⟨stem, hstem, hfile⟩ := exists_name_file basename (Text.zeroPaddedInt 3 index)
    (Text.zeroPaddedInt_ne_empty 3 index) (Text.slash_notMem_zeroPaddedInt 3 index)
    (pieces_of_notMem hslash)
  unfold suffix file
  rw [hfile, List.filter_nil, List.getLast?_nil, Option.getD_none, suffixOf_ne_empty_iff hstem]
  simp

end FrameName

end Flipbook
