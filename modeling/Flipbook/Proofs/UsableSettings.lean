import Flipbook.Output.PictureFile
import Flipbook.Proofs.FrameSuffixes
import Flipbook.Proofs.LoadedScripts
import Flipbook.Shape.Builder
import Mathlib.Data.List.DropRight

/-!
# What can be relied on in settings

Whatever the variables of an environment are set to, numbers are at least what makes sense and texts
are neither empty nor surrounded by blanks (`Settings.Usable`).  The one setting that can still be
empty is the extension of pictures: whether to take the default is decided before the dots at the
start are removed, so a variable that holds nothing but dots leaves no extension
(`Settings.usable_for_every_environment`).
-/

namespace Flipbook

namespace Text

/-! ### Trimmed texts -/

theorem trimBy_eq_rdropWhile (p : Char → Bool) (cs : List Char) :
    trimBy p cs = (cs.dropWhile p).rdropWhile p := rfl

theorem dropWhile_trimBy (p : Char → Bool) (cs : List Char) :
    (trimBy p cs).dropWhile p = trimBy p cs := by
  rw [trimBy_eq_rdropWhile, List.dropWhile_eq_self_iff]
  intro hpos
  have hstarts : (cs.dropWhile p).rdropWhile p <+: cs.dropWhile p := List.rdropWhile_prefix p _
  have hpos' : 0 < (cs.dropWhile p).length := hpos.trans_le hstarts.length_le
  rw [hstarts.getElem hpos]
  exact List.dropWhile_get_zero_not p cs hpos'

theorem trim_trim (s : String) : trim (trim s) = trim s := by
  have hlist : trimBy isBlank (trimBy isBlank s.toList) = trimBy isBlank s.toList := by
    rw [trimBy_eq_rdropWhile, dropWhile_trimBy, trimBy_eq_rdropWhile, List.rdropWhile_idempotent]
  simp [trim, hlist]

/-- The text is not empty and has no blanks around it. -/
def Bare (s : String) : Prop := s ≠ "" ∧ trim s = s

instance (s : String) : Decidable (Bare s) := inferInstanceAs (Decidable (_ ∧ _))

theorem bare_trim {s : String} (h : trim s ≠ "") : Bare (trim s) := ⟨h, trim_trim s⟩

/-! ### Characters at the start -/

theorem head?_dropLeading (c : Char) (s : String) : (dropLeading c s).toList.head? ≠ some c := by
  rw [dropLeading, String.toList_ofList]
  intro h
  have := List.head?_dropWhile_not (· == c) s.toList
  rw [h] at this
  simp at this

theorem dropLeading_eq_empty_iff {c : Char} {s : String} :
    dropLeading c s = "" ↔ ∀ d ∈ s.toList, d = c := by
  simp [dropLeading, ← String.toList_inj, List.dropWhile_eq_nil_iff]

end Text

namespace Environment

theorem bare_str (env : Environment) (name : String) {fallback : String}
    (h : Text.Bare fallback) : Text.Bare (env.str name fallback) := by
  unfold str
  split
  · exact h
  · split
    · exact h
    · exact Text.bare_trim ‹_›

end Environment

namespace Settings

/-- Settings that can be relied on. -/
structure Usable (s : Settings) : Prop where
  imageSize : 1 ≤ s.imageSize
  progressEvery : 1 ≤ s.progressEvery
  animationDelay : 1 ≤ s.animationDelay
  steps : 3 ≤ s.steps
  outputDir : Text.Bare s.outputDir
  defaultBasename : Text.Bare s.defaultBasename
  imageExt : s.imageExt.toList.head? ≠ some '.'

theorem Usable.checkedSteps {s : Settings} (h : s.Usable) :
    Mesh.checkedSteps s.steps = .ok s.steps.toNat := if_neg (not_lt.2 h.steps)

theorem Usable.parametersSteps {s : Settings} (h : s.Usable) {params : Parameters}
    (hstep : Value.field params "step" = .null) :
    Parameters.steps params s.steps = .ok s.steps.toNat := by
  rw [Parameters.steps, hstep]
  exact congrArg Fault.ofGeometry h.checkedSteps

theorem Usable.extension {s : Settings} (h : s.Usable) :
    FrameName.extension "" s.imageExt = s.imageExt := Text.dropLeading_of_head? h.imageExt

theorem usable (env : Environment) : (ofEnvironment env).Usable where
  imageSize := le_number env _ (by decide)
  progressEvery := le_number env _ (by decide)
  animationDelay := le_number env _ (by decide)
  steps := le_number env _ (by decide)
  outputDir := env.bare_str _ (by decide +kernel)
  defaultBasename := env.bare_str _ (by decide +kernel)
  imageExt := Text.head?_dropLeading '.' _

/-- There is no extension exactly when the variable is set to dots, with or without blanks around
them. -/
theorem imageExt_eq_empty_iff (env : Environment) : (ofEnvironment env).imageExt = "" ↔
    ∃ text, env "MDL_IMAGE_EXT" = some text ∧ Text.trim text ≠ "" ∧
      ∀ c ∈ (Text.trim text).toList, c = '.' := by
  rw [ofEnvironment, Text.dropLeading_eq_empty_iff, Environment.str]
  cases henv : env "MDL_IMAGE_EXT" with
  | none => simp
  | some text =>
    by_cases hblank : Text.trim text = ""
    · simp [hblank]
    · simp [hblank]

open FrameName PathName

theorem resolve_file_of_empty (basename : String) (index : Int) :
    PictureFile.resolve (ofString (file basename index "" "")) "" = .error .noName := by
  have hnone : (ofString (file basename index "" "")).suffix = "" := by
    rw [suffix_file]
    decide +kernel
  rw [PictureFile.resolve, if_neg (by simp [hnone]), addExtension?, if_pos (.inr (.inl rfl))]

/-- **Settings can be relied on, the extension of pictures apart.**  So progress is never told every
zero frames and the default steps of curved surfaces are never turned down.  The extension is empty
exactly when its variable is set to dots, and then no frame can be saved under its name.  The names
of frames have an extension unless the one that is set is empty or ends in a dot; the animation and
the number of the frame do not matter. -/
theorem usable_for_every_environment (env : Environment) :
    let s := ofEnvironment env
    s.Usable ∧
    (s.imageExt = "" ↔ ∃ text, env "MDL_IMAGE_EXT" = some text ∧ Text.trim text ≠ "" ∧
      ∀ c ∈ (Text.trim text).toList, c = '.') ∧
    s.progressEvery ≠ 0 ∧
    Mesh.checkedSteps s.steps = .ok s.steps.toNat ∧
    (∀ params : Parameters, Value.field params "step" = .null →
      Parameters.steps params s.steps = .ok s.steps.toNat) ∧
    (∀ basename index, (ofString (file basename index "" s.imageExt)).suffix =
      (ofString ("0." ++ s.imageExt)).suffix) ∧
    ('/' ∉ s.imageExt.toList → ∀ basename index,
      (ofString (file basename index "" s.imageExt)).suffix ≠ "" ↔
        s.imageExt ≠ "" ∧ s.imageExt.toList.getLast? ≠ some '.') ∧
    (s.imageExt = "" → ∀ basename index,
      PictureFile.resolve (ofString (file basename index "" s.imageExt)) s.imageExt =
        .error .noName) := by
  intro s
  have hs : s.Usable := usable env
  refine ⟨hs, imageExt_eq_empty_iff env, by have := hs.progressEvery; omega, hs.checkedSteps,
    fun params => hs.parametersSteps, fun basename index => ?_, fun hslash basename index => ?_,
    fun hnone basename index => ?_⟩
  · have hfile := suffix_file basename index "" s.imageExt
    rwa [hs.extension] at hfile
  · have hfile := suffix_file_ne_empty_iff (hs.extension.symm ▸ hslash) basename index
    rwa [hs.extension] at hfile
  · rw [hnone]
    exact resolve_file_of_empty basename index

/-- A dot for an extension leaves none, and no frame can be saved under the names that are made
with it. -/
theorem extension_of_dot :
    let env : Environment := fun name => if name = "MDL_IMAGE_EXT" then some " . " else none
    let s := ofEnvironment env
    let name := FrameName.file s.defaultBasename 3 "" s.imageExt
    s.imageExt = "" ∧ name = "image003." ∧ (PathName.ofString name).suffix = "" ∧
      PictureFile.resolve (.ofString name) s.imageExt = .error .noName := by
  decide +kernel

end Settings

end Flipbook
