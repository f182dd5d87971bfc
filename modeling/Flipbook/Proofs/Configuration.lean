import Flipbook.Project
import Flipbook.Proofs.KeyIdentity
import Flipbook.Proofs.Outcome
import Flipbook.Value.Printer
import Flipbook.Yaml.NodeValue

/-!
# What a configuration is made of

A file of the configuration counts as the mapping that its reader finds in it, and as the empty
mapping where it is missing, unreadable, malformed or no mapping (`Project.mapping`).  The
configuration has the keys of both files, and those of the one at the root count more.  Whatever the
files hold and whatever reads them, there is such a configuration, but for two faults that are let
through: bytes that are no text, and scalars without a value of their kind
(`Project.loadConfig_merges`).
-/

namespace Flipbook

namespace Value

variable {β : Type} {fields : List (Scalar × β)} {key k : Scalar} {v : β}

/-! ### Lookups -/

theorem lookup_append (fields fields' : List (Scalar × β)) (key : Scalar) :
    lookup (fields ++ fields') key = (lookup fields key).or (lookup fields' key) := by
  rw [lookup, List.find?_append, Option.map_or]
  rfl

/-! ### Entries that are written one after the other -/

theorem lookup_putField (key : Scalar) (v : β) (fields : List (Scalar × β)) (k : Scalar) :
    lookup (putField key v fields) k = if key.sameKey k then some v else lookup fields k := by
  induction fields with
  | nil => exact lookup_cons (key, v) [] k
  | cons f fields ih =>
    rw [putField]
    by_cases hf : f.1.sameKey key = true
    · have hsame : f.1.sameKey k = key.sameKey k := by
        rw [Bool.eq_iff_iff, Scalar.sameKey_iff, Scalar.sameKey_iff, Scalar.sameKey_iff.1 hf]
      rw [if_pos hf, lookup_cons, lookup_cons, hsame]
      split <;> rfl
    · rw [if_neg hf, lookup_cons, lookup_cons, ih]
      by_cases hk : key.sameKey k = true
      · have hother : f.1.sameKey k = false := by
          rw [Scalar.sameKey_eq_false_iff, ← Scalar.sameKey_iff.1 hk]
          exact fun heq => hf (Scalar.sameKey_iff.2 heq)
        simp [hk, hother]
      · simp [hk]

theorem mem_putField {f : Scalar × β} (h : f ∈ putField key v fields) :
    f.1 = key ∨ ∃ g ∈ fields, f.1 = g.1 := by
  induction fields with
  | nil => exact .inl (congrArg Prod.fst (List.mem_singleton.1 h))
  | cons g fields ih =>
    rw [putField] at h
    split at h
    · rcases List.mem_cons.1 h with rfl | h
      · exact .inr ⟨g, List.mem_cons_self, rfl⟩
      · exact .inr ⟨f, List.mem_cons_of_mem g h, rfl⟩
    · rcases List.mem_cons.1 h with rfl | h
      · exact .inr ⟨f, List.mem_cons_self, rfl⟩
      · obtain hkey | ⟨g', hg', heq⟩ := ih h
        · exact .inl hkey
        · exact .inr ⟨g', List.mem_cons_of_mem g hg', heq⟩

theorem distinctKeys_putField (hkeys : DistinctKeys fields) (key : Scalar) (v : β) :
    DistinctKeys (putField key v fields) := by
  induction hkeys with
  | nil => exact List.pairwise_singleton ..
  | cons hfirst hrest ih =>
    rename_i g fields
    rw [putField]
    split
    · exact .cons hfirst hrest
    · rename_i hother
      refine .cons (fun f hf => ?_) ih
      obtain hkey | ⟨g', hg', heq⟩ := mem_putField hf
      · rw [hkey]
        exact Bool.eq_false_iff.2 hother
      · rw [heq]
        exact hfirst g' hg'

theorem collected_concat (fields : List (Scalar × β)) (f : Scalar × β) :
    collected (fields ++ [f]) = putField f.1 f.2 (collected fields) := by
  rw [collected, List.foldl_append]
  rfl

theorem distinctKeys_collected (fields : List (Scalar × β)) :
    DistinctKeys (collected fields) := by
  induction fields using List.reverseRecOn with
  | nil => exact .nil
  | append_singleton fields f ih =>
    rw [collected_concat]
    exact distinctKeys_putField ih f.1 f.2

/-- Of entries with one key the last one counts. -/
theorem lookup_collected (fields : List (Scalar × β)) (key : Scalar) :
    lookup (collected fields) key = lookup fields.reverse key := by
  induction fields using List.reverseRecOn with
  | nil => rfl
  | append_singleton fields f ih =>
    rw [collected_concat, lookup_putField, List.reverse_append, List.reverse_singleton,
      List.singleton_append, lookup_cons, ih]

theorem lookup_collected_append {base own : List (Scalar × β)} (hbase : DistinctKeys base)
    (hown : DistinctKeys own) (key : Scalar) :
    lookup (collected (base ++ own)) key = (lookup own key).or (lookup base key) := by
  rw [lookup_collected, List.reverse_append, lookup_append,
    ← lookup_of_perm hown (List.reverse_perm own).symm,
    ← lookup_of_perm hbase (List.reverse_perm base).symm]

end Value

/-! ### Mappings in documents -/

namespace Yaml

theorem Node.distinctKeys_of_value {n : Node} {fields : List (Scalar × Value)}
    (h : n.value = .ok (.map fields)) : DistinctKeys fields := by
  unfold value at h
  split at h
  · -- a scalar
    split at h
    · obtain ⟨s, -, hs⟩ := exists_of_map_eq_ok h
      cases hs
    · cases h
  -- sequences
  · obtain ⟨items, -, hitems⟩ := exists_of_bind_eq_ok h
    cases hitems
  · obtain ⟨items, -, hitems⟩ := exists_of_bind_eq_ok h
    cases hitems
  · obtain ⟨items, -, hitems⟩ := exists_of_bind_eq_ok h
    cases hitems
  · cases h
  · -- a mapping
    obtain ⟨⟨merged, own⟩, -, hfields⟩ := exists_of_bind_eq_ok h
    cases hfields
    exact Value.distinctKeys_collected _
  · -- the keys of a mapping as a set
    obtain ⟨⟨merged, own⟩, -, hfields⟩ := exists_of_bind_eq_ok h
    cases hfields
  · -- the default value of a mapping
    split at h
    · obtain ⟨text, -, htext⟩ := exists_of_bind_eq_ok h
      obtain ⟨s, -, hs⟩ := exists_of_bind_eq_ok htext
      cases hs
    · cases h

theorem distinctKeys_of_read {text : String} {fields : List (Scalar × Value)}
    (h : read text = .ok (.map fields)) : DistinctKeys fields := by
  unfold read at h
  obtain ⟨tokens, -, h⟩ := exists_of_bind_eq_ok h
  obtain ⟨node?, -, h⟩ := exists_of_bind_eq_ok h
  cases node? with
  | none => cases h
  | some n => exact Node.distinctKeys_of_value h

/-- The mappings that are read have distinct keys. -/
def Reader.KeepsKeysApart {ν : Type} (yaml : Reader ν) : Prop :=
  ∀ content v fields, yaml.read content = .ok v → yaml.entries? v = some fields →
    DistinctKeys fields

theorem keepsKeysApart_reader : reader.KeepsKeysApart := by
  intro content v fields hread hentries
  obtain rfl : v = .map fields := by
    cases v with
    | map fs => exact congrArg Value.map (Option.some.inj hentries)
    | _ => cases hentries
  simp only [reader, readFile] at hread
  split at hread
  · exact distinctKeys_of_read hread
  · cases hread

end Yaml

/-! ### Files of a configuration -/

namespace Project

variable {ν : Type} (yaml : Yaml.Reader ν) (t : FileTree) (p : PathName)

/-- The mapping that a file holds; a file that holds none counts as the empty one. -/
def mapping : List (Scalar × ν) :=
  match t.read p with
  | .error _ => []
  | .ok content => match yaml.read content with
    | .ok v => (yaml.entries? v).getD []
    | .error _ => []

/-- The faults of a file that are let through. -/
inductive Escapes : Fault → Prop
  /-- The bytes are no text. -/
  | undecodable {content : FileContent} (hcontent : t.read p = .ok content)
      (h : yaml.read content = .error .undecodable) : Escapes (.file .undecodable)
  /-- A scalar of the text has no value of its kind. -/
  | scalar {content : FileContent} {f : Yaml.ScalarFault} (hcontent : t.read p = .ok content)
      (h : yaml.read content = .error (.scalar f)) : Escapes (.scalar f)

variable {yaml t p}

theorem Escapes.content {f : Fault} (h : Escapes yaml t p f) :
    ∃ content g, t.read p = .ok content ∧ yaml.read content = .error g ∧ g ≠ .malformed := by
  cases h with
  | undecodable hcontent hread => exact ⟨_, _, hcontent, hread, nofun⟩
  | scalar hcontent hread => exact ⟨_, _, hcontent, hread, nofun⟩

theorem not_escapes_of_error {f : FileFault} (hcontent : t.read p = .error f) (g : Fault) :
    ¬ Escapes yaml t p g := by
  rintro h
  obtain ⟨content, -, hok, -⟩ := h.content
  rw [hcontent] at hok
  cases hok

theorem not_escapes_of_isOk {content : FileContent} (hcontent : t.read p = .ok content)
    (hread : (yaml.read content).isOk = true) (g : Fault) : ¬ Escapes yaml t p g := by
  rintro h
  obtain ⟨content', _, hok, herror, -⟩ := h.content
  obtain rfl := Except.ok.inj (hcontent.symm.trans hok)
  rw [herror] at hread
  cases hread

theorem escapes_iff {content : FileContent} {f : Yaml.ReadFault}
    (hcontent : t.read p = .ok content) (hread : yaml.read content = .error f) (g : Fault) :
    Escapes yaml t p g ↔ f = .undecodable ∧ g = .file .undecodable ∨
      ∃ s, f = .scalar s ∧ g = .scalar s := by
  constructor
  · rintro (⟨hok, herror⟩ | ⟨hok, herror⟩) <;>
      obtain rfl := Except.ok.inj (hcontent.symm.trans hok) <;>
      obtain rfl := Except.error.inj (hread.symm.trans herror)
    · exact .inl ⟨rfl, rfl⟩
    · exact .inr ⟨_, rfl, rfl⟩
  · rintro (⟨rfl, rfl⟩ | ⟨s, rfl, rfl⟩)
    · exact .undecodable hcontent hread
    · exact .scalar hcontent hread

/-- **A file adds its mapping, or one of its faults is let through.** -/
theorem readEntries_cases (yaml : Yaml.Reader ν) (t : FileTree) (p : PathName) :
    (readEntries yaml t p = .ok (mapping yaml t p) ∧ ∀ f, ¬ Escapes yaml t p f) ∨
      ∃ f, readEntries yaml t p = .error f ∧ ∀ g, Escapes yaml t p g ↔ g = f := by
  cases hcontent : t.read p with
  | error f =>
    refine .inl ⟨?_, not_escapes_of_error hcontent⟩
    simp only [readEntries, mapping, hcontent]
  | ok content =>
    simp only [readEntries, mapping, hcontent]
    cases hread : yaml.read content with
    | ok v => exact .inl ⟨rfl, not_escapes_of_isOk hcontent (by rw [hread]; rfl)⟩
    | error f =>
      simp only [escapes_iff hcontent hread]
      cases f with
      | malformed => exact .inl ⟨rfl, by simp⟩
      | undecodable => exact .inr ⟨_, rfl, by simp⟩
      | scalar s => exact .inr ⟨_, rfl, by simp⟩

theorem distinctKeys_mapping (hkeys : yaml.KeepsKeysApart) (t : FileTree) (p : PathName) :
    DistinctKeys (mapping yaml t p) := by
  unfold mapping
  split
  · exact .nil
  · split
    · rename_i v hread
      cases hentries : yaml.entries? v with
      | none => exact .nil
      | some fields => exact hkeys _ v fields hread hentries
    · exact .nil

theorem loadConfig_eq (yaml : Yaml.Reader ν) (t : FileTree) (root : PathName) :
    loadConfig yaml t root = do
      let base ← readEntries yaml t (root / "configs/default.yaml")
      let own ← readEntries yaml t (root / "config.yaml")
      return Value.collected (base ++ own) := by
  unfold loadConfig
  simp [configFiles]

/-- Of the faults that are let through the first one is that of the configuration. -/
theorem loadConfig_eq_error_iff (yaml : Yaml.Reader ν) (t : FileTree) (root : PathName)
    (f : Fault) :
    loadConfig yaml t root = .error f ↔ Escapes yaml t (root / "configs/default.yaml") f ∨
      (∀ g, ¬ Escapes yaml t (root / "configs/default.yaml") g) ∧
        Escapes yaml t (root / "config.yaml") f := by
  rw [loadConfig_eq]
  obtain ⟨hbase, hnone⟩ | ⟨g, hbase, hg⟩ := readEntries_cases yaml t (root / "configs/default.yaml")
  · obtain ⟨hown, hnone'⟩ | ⟨g, hown, hg⟩ := readEntries_cases yaml t (root / "config.yaml")
    · rw [hbase, hown]
      refine iff_of_false (by rintro ⟨⟩) ?_
      rintro (h | ⟨-, h⟩)
      · exact hnone f h
      · exact hnone' f h
    · rw [hbase, hown, hg]
      change Except.error g = .error f ↔ _
      simp [hnone, eq_comm]
  · rw [hbase, hg]
    change Except.error g = .error f ↔ _
    simp [hg, eq_comm]

theorem exists_loadConfig (hkeys : yaml.KeepsKeysApart) {root : PathName}
    (hbase : ∀ f, ¬ Escapes yaml t (root / "configs/default.yaml") f)
    (hown : ∀ f, ¬ Escapes yaml t (root / "config.yaml") f) :
    ∃ fields, loadConfig yaml t root = .ok fields ∧ DistinctKeys fields ∧
      ∀ key, Value.lookup fields key = (Value.lookup (mapping yaml t (root / "config.yaml")) key).or
        (Value.lookup (mapping yaml t (root / "configs/default.yaml")) key) := by
  rw [loadConfig_eq]
  obtain ⟨hreadBase, -⟩ | ⟨f, -, hf⟩ := readEntries_cases yaml t (root / "configs/default.yaml")
  · obtain ⟨hreadOwn, -⟩ | ⟨f, -, hf⟩ := readEntries_cases yaml t (root / "config.yaml")
    · rw [hreadBase, hreadOwn]
      exact ⟨_, rfl, Value.distinctKeys_collected _, Value.lookup_collected_append
        (distinctKeys_mapping hkeys t _) (distinctKeys_mapping hkeys t _)⟩
    · exact absurd ((hf f).2 rfl) (hown f)
  · exact absurd ((hf f).2 rfl) (hbase f)

/-- **The configuration has the entries of both files, and those of the second one count more.**
A file that is missing, unreadable, malformed or no mapping counts as the empty one and leaves the
other alone.  What is let through is the first fault of a file whose bytes are no text or in which a
scalar has no value; where texts are malformed or have a value, only files are concerned that are no
text. -/
theorem loadConfig_merges {ν : Type} {yaml : Yaml.Reader ν} (hkeys : yaml.KeepsKeysApart)
    (t : FileTree) (root : PathName) :
    let base := root / "configs/default.yaml"
    let own := root / "config.yaml"
    ((∀ f, ¬ Escapes yaml t base f) → (∀ f, ¬ Escapes yaml t own f) →
      ∃ fields, loadConfig yaml t root = .ok fields ∧ DistinctKeys fields ∧
        ∀ key, Value.lookup fields key =
          (Value.lookup (mapping yaml t own) key).or (Value.lookup (mapping yaml t base) key)) ∧
    DistinctKeys (mapping yaml t own) ∧ DistinctKeys (mapping yaml t base) ∧
    (∀ f, loadConfig yaml t root = .error f ↔
      Escapes yaml t base f ∨ (∀ g, ¬ Escapes yaml t base g) ∧ Escapes yaml t own f) ∧
    ((∀ content text, content.text? = some text →
        (∃ v, yaml.read content = .ok v) ∨ yaml.read content = .error .malformed) →
      ∀ p ∈ [base, own], ∀ f, Escapes yaml t p f →
        ∃ content, t.read p = .ok content ∧ content.text? = none) := by
  refine ⟨exists_loadConfig hkeys, distinctKeys_mapping hkeys t _, distinctKeys_mapping hkeys t _,
    loadConfig_eq_error_iff yaml t root, fun hyaml p _ f hescapes => ?_⟩
  obtain ⟨content, g, hcontent, hread, hg⟩ := hescapes.content
  refine ⟨content, hcontent, Option.eq_none_iff_forall_ne_some.2 fun text htext => hg ?_⟩
  obtain ⟨v, hok⟩ | hmalformed := hyaml content text htext
  · rw [hread] at hok
    cases hok
  · rw [hread] at hmalformed
    exact Except.error.inj hmalformed

/-- The file at the root has one of the two keys of the other one. -/
theorem loadConfig_two_files :
    let t : FileTree := ⟨[], .ofList [(["configs"], .directory),
      (["configs", "default.yaml"], .file (.bytes "a: 1\nb: 2\n".toUTF8)),
      (["config.yaml"], .file (.bytes "a: 3\n".toUTF8))]⟩
    let root := PathName.ofString "."
    Yaml.reader.KeepsKeysApart ∧ ∃ fields, loadConfig Yaml.reader t root = .ok fields ∧
      (Value.lookup fields (.str "a")).map Value.text = some "3" ∧
      (Value.lookup fields (.str "b")).map Value.text = some "2" := by
  intro t root
  have hbase : t.read (root / "configs/default.yaml") = .ok (.bytes "a: 1\nb: 2\n".toUTF8) := rfl
  have hown : t.read (root / "config.yaml") = .ok (.bytes "a: 3\n".toUTF8) := rfl
  obtain ⟨hmerges, -⟩ := loadConfig_merges Yaml.keepsKeysApart_reader t root
  obtain ⟨fields, hload, -, hlookup⟩ := hmerges
    (not_escapes_of_isOk hbase (by decide +kernel)) (not_escapes_of_isOk hown (by decide +kernel))
  refine ⟨Yaml.keepsKeysApart_reader, fields, hload, ?_, ?_⟩
  · rw [hlookup]
    decide +kernel
  · rw [hlookup]
    decide +kernel

/-- A file whose one byte is no text keeps the entry of the other one from being read. -/
theorem undecodable_bytes_escape :
    let t : FileTree := ⟨[], .ofList [(["configs"], .directory),
      (["configs", "default.yaml"], .file (.bytes "a: 1\n".toUTF8)),
      (["config.yaml"], .file (.bytes ⟨#[255]⟩))]⟩
    let root := PathName.ofString "."
    loadConfig Yaml.reader t root = .error (.file .undecodable) ∧
      (Value.lookup (mapping Yaml.reader t (root / "configs/default.yaml")) (.str "a")).map
        Value.text = some "1" := by
  intro t root
  have hbase : t.read (root / "configs/default.yaml") = .ok (.bytes "a: 1\n".toUTF8) := rfl
  have hown : t.read (root / "config.yaml") = .ok (.bytes ⟨#[255]⟩) := rfl
  have hnotext : Yaml.reader.read (.bytes ⟨#[255]⟩) = .error .undecodable :=
    eq_error_of_failure? (by decide +kernel)
  refine ⟨(loadConfig_eq_error_iff Yaml.reader t root _).2 (.inr ⟨?_, ?_⟩), ?_⟩
  · exact not_escapes_of_isOk hbase (by decide +kernel)
  · exact .undecodable hown hnotext
  · decide +kernel

end Project

end Flipbook
