import Flipbook.Output.AnimationFile
import Flipbook.Output.PictureFile
import Flipbook.Proofs.Outcome
import Flipbook.Proofs.Symbols
import Mathlib.Data.List.Forall2

/-!
# What writing changes in a file tree

Where a path name leads is a matter of its parts, and the tree only decides whether it leads there
at all (`FileTree.place_of_locate`).  Writing makes directories and overwrites files in some places;
directories stay directories, and files in other places stay as they are (`FileTree.Changes`).  So a
path name that led to a file still leads to the same file (`FileTree.Changes.lookup_file`), and what
was saved is read back as long as nothing is written in its place.
-/

namespace Flipbook

namespace FileTree

variable {t t' t'' : FileTree} {p : PathName} {place place' : Place} {content : FileContent}

/-! ### Places -/

/-- One step of the way that a path name describes. -/
def stepFrom (place : Place) (part : String) : Place :=
  if part = ".." then place.dropLast else place ++ [part]

/-- The place that a path name describes, seen from a working directory. -/
def placeOf (current : Place) (p : PathName) : Place :=
  p.parts.foldl stepFrom (if p.isAbsolute then [] else current)

theorem place_of_walk {parts : List String} (h : t.walk place parts = .ok place') :
    place' = parts.foldl stepFrom place := by
  induction parts generalizing place with
  | nil => exact (Except.ok.inj h).symm
  | cons part parts ih =>
    rw [walk] at h
    split at h
    · cases h
    · cases h
    · exact ih h

/-- **A path name that leads somewhere leads to the place that it describes.** -/
theorem place_of_locate (h : t.locate p = .ok place) : place = placeOf t.current p :=
  place_of_walk h

theorem placeOf_of_last {root last : String} {before : List String} (h : last ≠ "..")
    (current : Place) : placeOf current ⟨root, before ++ [last]⟩ =
      placeOf current ⟨root, before⟩ ++ [last] := by
  unfold placeOf
  rw [List.foldl_append, List.foldl_cons, List.foldl_nil, stepFrom, if_neg h]
  rfl

/-! ### Changes -/

/-- The tree has changed, and files that were there have changed in some places only. -/
structure Changes (written : Place → Prop) (t t' : FileTree) : Prop where
  current : t'.current = t.current
  directory : ∀ place, t.entryAt? place = some .directory → t'.entryAt? place = some .directory
  file : ∀ place content, ¬ written place → t.entryAt? place = some (.file content) →
    t'.entryAt? place = some (.file content)

variable {written : Place → Prop}

theorem Changes.refl (written : Place → Prop) (t : FileTree) : Changes written t t :=
  ⟨rfl, fun _ h => h, fun _ _ _ h => h⟩

theorem Changes.trans (h : Changes written t t') (h' : Changes written t' t'') :
    Changes written t t'' where
  current := h'.current.trans h.current
  directory place hplace := h'.directory place (h.directory place hplace)
  file place content hwritten hplace :=
    h'.file place content hwritten (h.file place content hwritten hplace)

theorem Changes.mono {written' : Place → Prop} (h : Changes written t t')
    (hsub : ∀ place, written place → written' place) : Changes written' t t' :=
  ⟨h.current, h.directory, fun place content hnot => h.file place content fun hw =>
    hnot (hsub place hw)⟩

/-- The way that a path name describes stays open. -/
theorem Changes.walk (h : Changes written t t') {parts : List String}
    (hwalk : t.walk place parts = .ok place') : t'.walk place parts = .ok place' := by
  induction parts generalizing place with
  | nil => exact hwalk
  | cons part parts ih =>
    rw [FileTree.walk] at hwalk ⊢
    split at hwalk
    · cases hwalk
    · cases hwalk
    · rename_i hdirectory
      rw [h.directory place hdirectory]
      exact ih hwalk

theorem Changes.locate (h : Changes written t t') (hlocate : t.locate p = .ok place) :
    t'.locate p = .ok place := by
  unfold FileTree.locate at hlocate ⊢
  rw [h.current]
  exact h.walk hlocate

theorem lookup?_eq_some {entry : FileEntry} : t.lookup? p = some entry ↔
    ∃ place, t.locate p = .ok place ∧ t.entryAt? place = some entry := by
  unfold lookup?
  cases t.locate p <;> simp

/-- **A file stays under its name** unless something is written in its place. -/
theorem Changes.lookup_file (h : Changes written t t') (hnot : ¬ written (placeOf t.current p))
    (hlookup : t.lookup? p = some (.file content)) : t'.lookup? p = some (.file content) := by
  obtain ⟨place, hlocate, hentry⟩ := lookup?_eq_some.1 hlookup
  refine lookup?_eq_some.2 ⟨place, h.locate hlocate, h.file place content ?_ hentry⟩
  rw [place_of_locate hlocate]
  exact hnot

/-! ### Writing -/

theorem entryAt?_insert (hplace : place ≠ []) (entry : FileEntry) (q : Place) :
    ({ t with entries := t.entries.insert place entry } : FileTree).entryAt? q =
      if q = place then some entry else t.entryAt? q := by
  cases q with
  | nil => rw [if_neg (Ne.symm hplace)]; rfl
  | cons name q => exact OrderedMap.get?_insert t.entries place (name :: q) entry

theorem ne_nil_of_entryAt? (h : t.entryAt? place ≠ some .directory) : place ≠ [] := by
  rintro rfl
  exact h rfl

theorem changes_insert (h : t.entryAt? place ≠ some .directory) (entry : FileEntry) :
    Changes (· = place) t { t with entries := t.entries.insert place entry } where
  current := rfl
  directory q hq := by
    rw [entryAt?_insert (ne_nil_of_entryAt? h), if_neg (by rintro rfl; exact h hq)]
    exact hq
  file q content hnot hq := by
    rw [entryAt?_insert (ne_nil_of_entryAt? h), if_neg hnot]
    exact hq

theorem changes_makeDirectory (h : t.makeDirectory p = .ok t') :
    Changes (fun _ => False) t t' := by
  obtain ⟨place, -, h⟩ := exists_of_bind_eq_ok h
  split at h
  · cases h
  · rename_i hnone
    cases h
    have hinsert : Changes (· = place) t _ := changes_insert (by rw [hnone]; nofun) .directory
    refine ⟨rfl, hinsert.directory, fun q content _ hq => hinsert.file q content ?_ hq⟩
    rintro rfl
    rw [hnone] at hq
    cases hq

theorem changes_admitDirectory (h : t.admitDirectory p = .ok t') :
    Changes (fun _ => False) t t' := by
  unfold admitDirectory at h
  split at h
  · rename_i hmake
    cases h
    exact changes_makeDirectory hmake
  · split at h <;> cases h
    exact .refl ..

theorem changes_ensureFrom {missing : Nat} (h : t.ensureFrom p missing = .ok t') :
    Changes (fun _ => False) t t' := by
  induction missing generalizing t p t' with
  | zero => exact changes_admitDirectory h
  | succ missing ih =>
    rw [ensureFrom] at h
    split at h
    · obtain ⟨t'', hparent, h⟩ := exists_of_bind_eq_ok h
      exact (ih hparent).trans (changes_admitDirectory h)
    · exact changes_admitDirectory h

/-- **What was written is there, and nothing else has changed.** -/
theorem write_spec (h : t.write p content = .ok t') :
    Changes (· = placeOf t.current p) t t' ∧ t'.lookup? p = some (.file content) := by
  obtain ⟨place, hlocate, h⟩ := exists_of_bind_eq_ok h
  have hnot : t.entryAt? place ≠ some .directory := by
    intro hdirectory
    rw [hdirectory] at h
    cases h
  have hwritten : t' = { t with entries := t.entries.insert place (.file content) } := by
    split at h <;> cases h
    rfl
  have hchanges := changes_insert hnot (.file content)
  rw [← hwritten] at hchanges
  refine ⟨place_of_locate hlocate ▸ hchanges,
    lookup?_eq_some.2 ⟨place, hchanges.locate hlocate, ?_⟩⟩
  rw [hwritten, entryAt?_insert (ne_nil_of_entryAt? hnot), if_pos rfl]

/-! ### Reading -/

theorem read_of_lookup (h : t.lookup? p = some (.file content)) : t.read p = .ok content := by
  obtain ⟨place, hlocate, hentry⟩ := lookup?_eq_some.1 h
  simp only [FileTree.read, hlocate, bind, Except.bind, hentry]
  rfl

theorem isFile_of_lookup (h : t.lookup? p = some (.file content)) : t.isFile p = true := by
  rw [isFile, h]

end FileTree

namespace PictureFile

open FileTree

variable {writes : PathName → Bool} {t : FileTree} {picture : Picture}
variable {filename defaultExt : String} {p : PathName}

/-- Saving a picture fails before anything is written to a file, or it writes the file of its
name. -/
theorem save_cases (writes : PathName → Bool) (t : FileTree) (picture : Picture)
    (filename defaultExt : String) :
    (∃ t₁ f, Changes (fun _ => False) t t₁ ∧
      save writes t picture filename defaultExt = (t₁, .error f)) ∨
    ∃ p t₁ t₂, resolve (.ofString filename) defaultExt = .ok p ∧
      Changes (fun _ => False) t t₁ ∧ t₁.write p (.picture picture) = .ok t₂ ∧
      save writes t picture filename defaultExt = (t₂, .ok p) := by
  unfold save
  split
  · exact .inl ⟨t, _, .refl .., rfl⟩
  · rename_i p hresolve
    split
    · exact .inl ⟨t, _, .refl .., rfl⟩
    · rename_i t₁ hensure
      have hparent : Changes (fun _ => False) t t₁ := changes_ensureFrom hensure
      split
      · split
        · rename_i t₂ hwrite
          exact .inr ⟨p, t₁, t₂, hresolve, hparent, hwrite, rfl⟩
        · exact .inl ⟨t₁, _, hparent, rfl⟩
      · exact .inl ⟨t₁, _, hparent, rfl⟩

theorem changes_save (writes : PathName → Bool) (t : FileTree) (picture : Picture)
    (filename defaultExt : String) :
    Changes (fun place => ∃ p, resolve (.ofString filename) defaultExt = .ok p ∧
      place = placeOf t.current p) t (save writes t picture filename defaultExt).1 := by
  rcases save_cases writes t picture filename defaultExt with
    ⟨t₁, f, hchanges, hsave⟩ | ⟨p, t₁, t₂, hresolve, hchanges, hwrite, hsave⟩
  · rw [hsave]
    exact hchanges.mono fun _ => False.elim
  · have hwritten := (write_spec hwrite).1
    rw [hchanges.current] at hwritten
    rw [hsave]
    exact (hchanges.mono fun _ => False.elim).trans
      (hwritten.mono fun place hplace => ⟨p, hresolve, hplace⟩)

/-- **A picture that was saved is there**, under the name that its name resolves to. -/
theorem lookup_save (h : (save writes t picture filename defaultExt).2 = .ok p) :
    resolve (.ofString filename) defaultExt = .ok p ∧
      (save writes t picture filename defaultExt).1.lookup? p =
        some (.file (.picture picture)) := by
  rcases save_cases writes t picture filename defaultExt with
    ⟨t₁, f, -, hsave⟩ | ⟨q, t₁, t₂, hresolve, -, hwrite, hsave⟩
  · rw [hsave] at h
    cases h
  · rw [hsave] at h ⊢
    obtain rfl := Except.ok.inj h
    exact ⟨hresolve, (write_spec hwrite).2⟩

end PictureFile

namespace AnimationFile

variable {t : FileTree} {frames : List PathName} {pictures : List Picture}
variable (h : List.Forall₂ (fun p picture => t.lookup? p = some (.file (.picture picture)))
  frames pictures)

include h

theorem readFrames_eq : readFrames t frames = .ok pictures := by
  refine mapM_eq_of_forall₂ (h.imp fun p picture hlookup => ?_)
  rw [FileTree.read_of_lookup hlookup]
  rfl

theorem isFile_of_mem {p : PathName} (hp : p ∈ frames) : t.isFile p = true := by
  induction h with
  | nil => cases hp
  | cons hlookup _ ih =>
    rcases List.mem_cons.1 hp with rfl | hp
    · exact FileTree.isFile_of_lookup hlookup
    · exact ih hp

/-- **Pictures that are there under their names are put together**, if they have the same size. -/
theorem assemble_eq (hne : frames ≠ []) (basename : String) (directory? : Option PathName)
    (delay : Int) : assemble t basename frames directory? delay =
      if equalSizes pictures then
        let path := directory?.getD (frames.head hne).parent / (basename ++ ".gif")
        (t.write path (.animation (.ofPictures pictures delay))).map fun t => (t, path)
      else .error .unequalPictures := by
  have hread := readFrames_eq h
  have hfind : frames.find? (fun p => !t.isFile p) = none := by
    refine List.find?_eq_none.2 fun p hp => ?_
    rw [isFile_of_mem h hp]
    decide
  cases frames with
  | nil => exact absurd rfl hne
  | cons first rest =>
    unfold assemble
    simp only [hfind, hread, bind, Except.bind, pure, Except.pure]
    cases equalSizes pictures with
    | false => rfl
    | true =>
      simp only [Bool.not_true, Bool.false_eq_true, ↓reduceIte, List.head_cons]
      cases t.write _ _ <;> rfl

end AnimationFile

end Flipbook
