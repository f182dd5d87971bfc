import Flipbook.Output.FrameName
import Flipbook.Output.PictureFile
import Mathlib.Data.List.Basic

/-!
# The path names of frames

A path name that was read from a text is the same when its text is read again
(`PathName.ofString_text`).  What is put after the text of a path name lengthens its last part and
nothing else (`PathName.exists_ofString_append`), whatever slashes and dots the text has.  So the
path names of the frames of an animation have all their parts but the last in common
(`FrameName.exists_path`), and the last one ends in the number of the frame and the extension:
different frames have different names, however many digits their numbers have
(`Text.zeroPadded_injective`), and no name gets another extension (`PictureFile.resolve_of_suffix`).
-/

namespace Flipbook

/-! ### Numbers and extensions as texts -/

namespace Text

/-- The zeros before a number do not hide which number it is. -/
theorem zeroPadded_injective (width : Nat) : Function.Injective (zeroPadded width) := by
  intro m n h
  have hvalue (k : Nat) : Nat.ofDigitChars 10 (zeroPadded width k).toList 0 = k := by
    rw [zeroPadded, String.toList_append, String.toList_ofList, Nat.ofDigitChars_append,
      Nat.ofDigitChars_replicate_zero, Nat.toList_repr]
    simp
  rw [← hvalue m, h, hvalue]

theorem zeroPadded_ne_empty (width n : Nat) : zeroPadded width n ≠ "" := by
  intro h
  have hdigits := congrArg String.toList h
  rw [zeroPadded, String.toList_append, Nat.toList_repr, String.toList_empty,
    List.append_eq_nil_iff] at hdigits
  exact Nat.toDigits_ne_nil hdigits.2

theorem isDigit_of_mem_zeroPadded {width n : Nat} {c : Char}
    (h : c ∈ (zeroPadded width n).toList) : c.isDigit := by
  rw [zeroPadded, String.toList_append, String.toList_ofList, List.mem_append,
    Nat.toList_repr] at h
  rcases h with h | h
  · rw [List.eq_of_mem_replicate h]
    rfl
  · exact Nat.isDigit_of_mem_toDigits (by decide : 0 < 10) (Nat.le_refl 10) h

theorem dropLeading_of_head? {c : Char} {s : String} (h : s.toList.head? ≠ some c) :
    dropLeading c s = s := by
  rw [dropLeading]
  cases hs : s.toList with
  | nil => rw [← String.toList_inj, hs]; rfl
  | cons d cs =>
    rw [hs, List.head?_cons, ne_eq, Option.some.injEq] at h
    rw [List.dropWhile_cons_of_neg (by simpa using h), ← hs, String.ofList_toList]

end Text

/-! ### Path names -/

namespace PathName

/-! #### Pieces of texts -/

theorem exists_pieces (cs : List Char) : ∃ p ps, pieces cs = p :: ps := by
  cases h : pieces cs with
  | nil => exact absurd h (by fun_cases pieces cs <;> simp_all)
  | cons p ps => exact ⟨p, ps, rfl⟩

theorem pieces_cons {c : Char} (hc : c ≠ '/') {cs p : List Char} {ps : List (List Char)}
    (h : pieces cs = p :: ps) : pieces (c :: cs) = (c :: p) :: ps := by
  rw [pieces.eq_3 _ _ fun hslash => hc hslash, h]

theorem pieces_of_notMem {cs : List Char} (h : '/' ∉ cs) : pieces cs = [cs] := by
  induction cs with
  | nil => rfl
  | cons c cs ih =>
    rw [List.mem_cons, not_or] at h
    exact pieces_cons (Ne.symm h.1) (ih h.2)

theorem pieces_append_slash {a : List Char} (h : '/' ∉ a) (b : List Char) :
    pieces (a ++ '/' :: b) = a :: pieces b := by
  induction a with
  | nil => rfl
  | cons c a ih =>
    rw [List.mem_cons, not_or] at h
    exact pieces_cons (Ne.symm h.1) (ih h.2)

theorem pieces_intercalate {ps : List (List Char)} (hne : ps ≠ []) (h : ∀ p ∈ ps, '/' ∉ p) :
    pieces (['/'].intercalate ps) = ps := by
  induction ps with
  | nil => exact absurd rfl hne
  | cons p ps ih =>
    cases ps with
    | nil =>
      rw [List.intercalate_singleton]
      exact pieces_of_notMem (h p List.mem_cons_self)
    | cons q qs =>
      rw [List.intercalate_cons_cons, List.append_assoc, List.singleton_append,
        pieces_append_slash (h p List.mem_cons_self),
        ih (List.cons_ne_nil q qs) fun r hr => h r (List.mem_cons_of_mem _ hr)]

theorem slash_notMem_of_mem_pieces {cs p : List Char} (h : p ∈ pieces cs) : '/' ∉ p := by
  induction cs generalizing p with
  | nil =>
    obtain rfl := List.mem_singleton.1 h
    exact List.not_mem_nil
  | cons c cs ih =>
    by_cases hc : c = '/'
    · subst hc
      rcases List.mem_cons.1 h with rfl | h
      · exact List.not_mem_nil
      · exact ih h
    · obtain ⟨q, qs, hqs⟩ := exists_pieces cs
      rw [pieces_cons hc hqs] at h
      rw [hqs] at ih
      rcases List.mem_cons.1 h with rfl | h
      · rw [List.mem_cons, not_or]
        exact ⟨Ne.symm hc, ih List.mem_cons_self⟩
      · exact ih (List.mem_cons_of_mem _ h)

/-- What is put after a text lengthens its last piece by the first one of what is put there. -/
theorem exists_pieces_lengthened (b : List Char) : ∃ before last, ∀ {s q : List Char} {qs},
    pieces s = q :: qs → pieces (b ++ s) = before ++ (last ++ q) :: qs := by
  induction b with
  | nil => exact ⟨[], [], fun hs => hs⟩
  | cons c b ih =>
    obtain ⟨before, last, ih⟩ := ih
    by_cases hc : c = '/'
    · subst hc
      exact ⟨[] :: before, last, fun hs => congrArg ([] :: ·) (ih hs)⟩
    · -- the first piece, which is the last one too where there is no other
      cases before with
      | nil => exact ⟨[], c :: last, fun hs => pieces_cons hc (ih hs)⟩
      | cons p ps => exact ⟨(c :: p) :: ps, last, fun hs => pieces_cons hc (ih hs)⟩

/-- **What is put after a text** lengthens its last piece, as long as it has no slash. -/
theorem exists_pieces_append (b : List Char) : ∃ before last, ∀ s : List Char, '/' ∉ s →
    pieces (b ++ s) = before ++ [last ++ s] := by
  obtain ⟨before, last, h⟩ := exists_pieces_lengthened b
  exact ⟨before, last, fun s hs => h (pieces_of_notMem hs)⟩

/-! #### Roots -/

/-- The roots that path names have. -/
def roots : List String := ["", "/", "//"]

theorem rootOf_mem (cs : List Char) : rootOf cs ∈ roots := by
  fun_cases rootOf cs <;> decide

theorem rootOf_append (b : List Char) {c : Char} (hc : c ≠ '/') (cs : List Char) :
    rootOf (b ++ c :: cs) = rootOf b := by
  match b with
  | [] => simp [rootOf, hc]
  | [x] =>
    by_cases hx : x = '/'
    · subst hx
      simp [rootOf, hc]
    · simp [rootOf, hx]
  | [x, y] =>
    by_cases hx : x = '/'
    · subst hx
      by_cases hy : y = '/'
      · subst hy
        simp [rootOf, hc]
      · simp [rootOf, hy]
    · simp [rootOf, hx]
  | x :: y :: z :: b =>
    by_cases hx : x = '/'
    · subst hx
      by_cases hy : y = '/'
      · subst hy
        by_cases hz : z = '/' <;> simp [rootOf, hz]
      · simp [rootOf, hy]
    · simp [rootOf, hx]

/-! #### Texts of path names -/

/-- The path name is that of some text. -/
structure Canonical (p : PathName) : Prop where
  root : p.root ∈ roots
  parts : ∀ part ∈ p.parts, part ≠ "" ∧ part ≠ "." ∧ '/' ∉ part.toList

theorem canonical_ofString (s : String) : (ofString s).Canonical where
  root := rootOf_mem _
  parts part hpart := by
    obtain ⟨cs, hcs, rfl⟩ := List.mem_map.1 hpart
    obtain ⟨hpiece, hkept⟩ := List.mem_filter.1 hcs
    rw [Bool.and_eq_true, bne_iff_ne, bne_iff_ne] at hkept
    refine ⟨fun h => hkept.1 ?_, fun h => hkept.2 ?_, ?_⟩
    · simpa using congrArg String.toList h
    · simpa using congrArg String.toList h
    · rw [String.toList_ofList]
      exact slash_notMem_of_mem_pieces hpiece

theorem Canonical.join {p q : PathName} (hp : p.Canonical) (hq : q.Canonical) :
    (p.join q).Canonical := by
  unfold PathName.join
  split
  · exact hq
  · refine ⟨hp.root, fun part hpart => ?_⟩
    rcases List.mem_append.1 hpart with h | h
    · exact hp.parts part h
    · exact hq.parts part h

/-- The pieces of a text that are parts of its path name. -/
def isPart (cs : List Char) : Bool := cs != [] && cs != ['.']

theorem isPart_toList {part : String} (h : part ≠ "" ∧ part ≠ "." ∧ '/' ∉ part.toList) :
    isPart part.toList = true := by
  rw [isPart, Bool.and_eq_true, bne_iff_ne, bne_iff_ne]
  refine ⟨fun hnil => h.1 (String.toList_eq_nil_iff.1 hnil), fun hdot => h.2.1 ?_⟩
  exact String.toList_inj.1 hdot

theorem ofString_eq (s : String) : ofString s =
    ⟨rootOf s.toList, ((pieces s.toList).filter isPart).map String.ofList⟩ := rfl

/-- The text after a root: parts with slashes between them. -/
def body (parts : List String) : List Char := ['/'].intercalate (parts.map String.toList)

theorem toList_text {p : PathName} (h : p.root ≠ "" ∨ p.parts ≠ []) :
    p.text.toList = p.root.toList ++ body p.parts := by
  unfold text
  split
  · simp_all
  · rw [String.toList_append, String.toList_intercalate]
    rfl

section Body

variable {parts : List String}
variable (h : ∀ part ∈ parts, part ≠ "" ∧ part ≠ "." ∧ '/' ∉ part.toList)

include h

theorem filter_pieces_body :
    ((pieces (body parts)).filter isPart).map String.ofList = parts := by
  by_cases hnil : parts = []
  · subst hnil
    rfl
  · have hpieces : pieces (body parts) = parts.map String.toList := by
      refine pieces_intercalate (by simpa using hnil) fun p hp => ?_
      obtain ⟨part, hpart, rfl⟩ := List.mem_map.1 hp
      exact (h part hpart).2.2
    have hkept : (parts.map String.toList).filter isPart = parts.map String.toList := by
      refine List.filter_eq_self.2 fun p hp => ?_
      obtain ⟨part, hpart, rfl⟩ := List.mem_map.1 hp
      exact isPart_toList (h part hpart)
    rw [hpieces, hkept, List.map_map]
    simp [Function.comp_def]

theorem body_ne_slash (cs : List Char) : body parts ≠ '/' :: cs := by
  cases parts with
  | nil => exact nofun
  | cons part parts =>
    obtain ⟨hne, -, hslash⟩ := h part List.mem_cons_self
    intro hbody
    cases hpart : part.toList with
    | nil => exact hne (String.toList_eq_nil_iff.1 hpart)
    | cons c rest =>
      have hc : c = '/' := by
        unfold body at hbody
        cases parts <;> simp [hpart] at hbody <;> exact hbody.1
      rw [hpart, hc] at hslash
      exact hslash List.mem_cons_self

end Body

theorem rootOf_root_append {root : String} (hroot : root ∈ roots) {cs : List Char}
    (hcs : ∀ rest, cs ≠ '/' :: rest) : rootOf (root.toList ++ cs) = root := by
  simp only [roots, List.mem_cons, List.not_mem_nil, or_false] at hroot
  cases cs with
  | nil => rcases hroot with rfl | rfl | rfl <;> rfl
  | cons c cs =>
    have hc : c ≠ '/' := fun h => hcs cs (congrArg (· :: cs) h)
    rw [rootOf_append _ hc]
    rcases hroot with rfl | rfl | rfl <;> rfl

/-- **A path name is read back from its text.** -/
theorem ofString_text {p : PathName} (h : p.Canonical) : ofString p.text = p := by
  by_cases hdot : p.root = "" ∧ p.parts = []
  · obtain ⟨root, parts⟩ := p
    obtain ⟨rfl, rfl⟩ := hdot
    rfl
  · rw [not_and_or] at hdot
    rw [ofString_eq, toList_text hdot, rootOf_root_append h.root (body_ne_slash h.parts)]
    have hparts : (pieces (p.root.toList ++ body p.parts)).filter isPart =
        (pieces (body p.parts)).filter isPart := by
      -- the slashes of a root make empty pieces
      have hroot := h.root
      simp only [roots, List.mem_cons, List.not_mem_nil, or_false] at hroot
      rcases hroot with hroot | hroot | hroot <;> rw [hroot] <;> rfl
    rw [hparts, filter_pieces_body h.parts]

/-- **What is put after the text of a path name** lengthens its last part, as long as it has no
slash. -/
theorem exists_ofString_append (b : String) : ∃ root before last, ∀ s : String,
    '/' ∉ s.toList → 1 < s.length → ofString (b ++ s) = ⟨root, before ++ [last ++ s]⟩ := by
  obtain ⟨before, last, hpieces⟩ := exists_pieces_append b.toList
  refine ⟨rootOf b.toList, (before.filter isPart).map String.ofList, String.ofList last, ?_⟩
  intro s hs hlength
  have hlast : isPart (last ++ s.toList) = true := by
    rw [← String.length_toList] at hlength
    rw [isPart, Bool.and_eq_true, bne_iff_ne, bne_iff_ne]
    refine ⟨fun h => ?_, fun h => ?_⟩
    · have := congrArg List.length h
      simp only [List.length_append, List.length_nil] at this
      omega
    · have := congrArg List.length h
      simp only [List.length_append, List.length_cons, List.length_nil] at this
      omega
  have hroot : rootOf (b.toList ++ s.toList) = rootOf b.toList := by
    cases hcs : s.toList with
    | nil =>
      rw [List.append_nil]
    | cons c cs =>
      rw [hcs, List.mem_cons, not_or] at hs
      exact rootOf_append _ (Ne.symm hs.1) _
  rw [ofString_eq, String.toList_append, hpieces _ hs, hroot, List.filter_append,
    List.filter_cons_of_pos hlast, List.filter_nil, List.map_append, List.map_singleton,
    String.ofList_append, String.ofList_toList]

/-! #### Extensions -/

theorem suffixOf_append {stem ext : String} (hstem : stem ≠ "") (hext : ext ≠ "")
    (hdot : '.' ∉ ext.toList) : suffixOf (stem ++ "." ++ ext) = "." ++ ext := by
  have hname : (stem ++ "." ++ ext).toList.reverse =
      ext.toList.reverse ++ '.' :: stem.toList.reverse := by
    simp
  have hafter : (ext.toList.reverse ++ '.' :: stem.toList.reverse).takeWhile (· != '.') =
      ext.toList.reverse := by
    rw [List.takeWhile_append_of_pos]
    · simp
    · intro c hc
      rw [bne_iff_ne]
      rintro rfl
      exact hdot (List.mem_reverse.1 hc)
  have hbefore : (ext.toList.reverse ++ '.' :: stem.toList.reverse).drop
      (ext.toList.reverse.length + 1) = stem.toList.reverse := by
    rw [List.drop_append]
    simp
  have hlength : ext.toList.reverse.length ≠ (stem ++ "." ++ ext).length := by
    have hcount := congrArg List.length hname
    simp only [List.length_append, List.length_cons, List.length_reverse,
      String.length_toList] at hcount ⊢
    omega
  unfold suffixOf
  simp only [hname, hafter, hbefore]
  rw [if_neg]
  · rw [← String.toList_inj]
    simp
  · simp only [Bool.or_eq_true, beq_iff_eq, not_or, hlength]
    simp [hstem, hext]

end PathName

theorem PictureFile.resolve_of_suffix {p : PathName} (h : p.suffix ≠ "") (defaultExt : String) :
    resolve p defaultExt = .ok p := if_pos h

/-! ### Frames -/

namespace FrameName

/-- The extension can follow a dot as it is. -/
structure PlainExtension (ext : String) : Prop where
  ne_empty : ext ≠ ""
  dot : '.' ∉ ext.toList
  slash : '/' ∉ ext.toList

variable {ext : String}

theorem PlainExtension.extension_eq (h : PlainExtension ext) (defaultExt : String) :
    extension ext defaultExt = ext := by
  rw [extension, if_neg h.ne_empty]
  exact Text.dropLeading_of_head? fun hdot => h.dot (List.mem_of_head? hdot)

theorem slash_notMem_numbered (h : PlainExtension ext) (index : Nat) :
    '/' ∉ (Text.zeroPadded 3 index ++ "." ++ ext).toList := by
  rw [String.toList_append, String.toList_append, List.mem_append, List.mem_append]
  rintro ((hdigit | hdot) | hslash)
  · exact absurd (Text.isDigit_of_mem_zeroPadded hdigit) (by decide)
  · exact absurd hdot (by decide)
  · exact h.slash hslash

theorem length_numbered (h : PlainExtension ext) (index : Nat) :
    2 < (Text.zeroPadded 3 index ++ "." ++ ext).length := by
  have hne : (Text.zeroPadded 3 index).toList ≠ [] := fun hnil =>
    Text.zeroPadded_ne_empty 3 index (String.toList_eq_nil_iff.1 hnil)
  have hext : ext.toList ≠ [] := fun hnil => h.ne_empty (String.toList_eq_nil_iff.1 hnil)
  have hlength := List.length_pos_iff.2 hne
  have hlength' := List.length_pos_iff.2 hext
  rw [← String.length_toList, String.toList_append, String.toList_append, List.length_append,
    List.length_append]
  have hdot : ".".toList.length = 1 := rfl
  omega

variable {directory : PathName} (basename defaultExt : String)

/-- **The path names of frames** differ in their numbers alone. -/
theorem exists_path (h : PlainExtension ext) (directory : PathName) :
    ∃ root before stem, ∀ index : Nat, path directory basename index ext defaultExt =
      ⟨root, before ++ [stem ++ (Text.zeroPadded 3 index ++ "." ++ ext)]⟩ := by
  obtain ⟨root, before, stem, hfile⟩ := PathName.exists_ofString_append basename
  have hpath (index : Nat) : path directory basename index ext defaultExt =
      directory.join ⟨root, before ++ [stem ++ (Text.zeroPadded 3 index ++ "." ++ ext)]⟩ := by
    have hlength := length_numbered h index
    rw [← hfile _ (slash_notMem_numbered h index) (by omega)]
    simp only [path, file, h.extension_eq, ← String.append_assoc]
    rfl
  by_cases hroot : root = ""
  · refine ⟨directory.root, directory.parts ++ before, stem, fun index => ?_⟩
    rw [hpath, List.append_assoc]
    simp [PathName.join, PathName.isAbsolute, hroot]
  · refine ⟨root, before, stem, fun index => ?_⟩
    rw [hpath]
    simp [PathName.join, PathName.isAbsolute, hroot]

theorem canonical_path (hdirectory : directory.Canonical) (index : Int) :
    (path directory basename index ext defaultExt).Canonical :=
  hdirectory.join (PathName.canonical_ofString _)

/-- **Different frames have different path names**, however many digits their numbers have. -/
theorem path_injective (h : PlainExtension ext) (directory : PathName) :
    Function.Injective fun index : Nat => path directory basename index ext defaultExt := by
  obtain ⟨root, before, stem, hpath⟩ := exists_path basename defaultExt h directory
  intro m n hmn
  simp only [hpath, PathName.mk.injEq, true_and, List.append_cancel_left_eq, List.cons.injEq,
    and_true, String.append_right_inj, String.append_left_inj] at hmn
  exact Text.zeroPadded_injective 3 hmn

/-- The name of a frame gets no other extension. -/
theorem resolve_path (h : PlainExtension ext) (index : Nat) (fallback : String) :
    PictureFile.resolve (path directory basename index ext defaultExt) fallback =
      .ok (path directory basename index ext defaultExt) := by
  obtain ⟨root, before, stem, hpath⟩ := exists_path basename defaultExt h directory
  refine PictureFile.resolve_of_suffix ?_ fallback
  have hstem : stem ++ Text.zeroPadded 3 index ≠ "" := by
    rw [Ne, String.append_eq_empty_iff]
    exact fun hempty => Text.zeroPadded_ne_empty 3 index hempty.2
  rw [hpath, PathName.suffix, PathName.name, List.getLast?_concat, Option.getD_some,
    ← String.append_assoc, ← String.append_assoc,
    PathName.suffixOf_append hstem h.ne_empty h.dot]
  rw [Ne, String.append_eq_empty_iff]
  exact fun hempty => h.ne_empty hempty.2

end FrameName

end Flipbook
