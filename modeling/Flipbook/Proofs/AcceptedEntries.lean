import Flipbook.Proofs.KeyIdentity
import Flipbook.Proofs.OperationFields
import Mathlib.Data.List.Perm.Basic

/-!
# Which entries are accepted

`Opcode.Accepts` says when an entry of a script is well formed: it names an operation, has no other
keys than the fields of the operation, and in each field there is what may stand there.  Such an
entry is accepted, and nothing else is; it gives the operation that it names with the converted
values of its fields, in whatever order its keys stand, and every operation comes from the entry
that lists it (`Operation.ofEntry_exact`).
-/

namespace Flipbook

/-! ### Entries that are well formed -/

namespace Scalar

theorem sameKey_str_iff {k : Scalar} {s : String} : k.sameKey (.str s) = true ↔ k = .str s := by
  cases k <;> simp [sameKey, wholeKey?]

end Scalar

namespace Opcode

theorem upper_trim_name (op : Opcode) : Text.upper (Text.trim op.name) = op.name := by
  have htrim : Text.trim op.name = op.name := by cases op <;> decide +kernel
  have hcapitals : op.name.toList.all (fun c => decide (c.toNat < 97)) = true := by
    cases op <;> decide +kernel
  rw [htrim]
  exact Text.upper_eq_self fun c hc => of_decide_eq_true (List.all_eq_true.1 hcapitals c hc)

/-- The value is the name of the operation, in any case and between blanks. -/
def IsNamed (op : Opcode) (v : Value) : Prop :=
  ∃ s, v = .str s ∧ Text.upper (Text.trim s) = op.name

/-- The key is there for the name or for a field of the operation. -/
def HasKey (op : Opcode) (k : Scalar) : Prop :=
  k = .str "op" ∨ ∃ r ∈ op.schema, k = .str r.name

/-- The entry is well formed as an entry of the operation. -/
structure Accepts (op : Opcode) (fields : List (Scalar × Value)) : Prop where
  /-- The entry names the operation. -/
  named : op.IsNamed (Value.field fields "op")
  /-- It has no other keys. -/
  known : ∀ f ∈ fields, op.HasKey f.1
  /-- In every field there is what may stand there. -/
  fits : ∀ r ∈ op.schema, r.Fits (Value.field fields r.name)

theorem ofName?_eq_some_iff {s : String} {op : Opcode} : ofName? s = some op ↔ op.name = s := by
  constructor
  · intro h
    unfold ofName? at h
    have hname := List.find?_some h
    exact beq_iff_eq.1 hname
  · rintro rfl
    cases op <;> rfl

theorem name_injective : Function.Injective name := by
  intro op op' h
  exact Option.some.inj ((ofName?_eq_some_iff.2 rfl).symm.trans (ofName?_eq_some_iff.2 h.symm))

end Opcode

theorem Entry.unknownKeys_eq_nil_iff {e : Entry} :
    e.unknownKeys = [] ↔ ∀ f ∈ e.fields, e.op.HasKey f.1 := by
  simp only [unknownKeys, List.filter_eq_nil_iff, List.mem_map, forall_exists_index, and_imp,
    forall_apply_eq_imp_iff₂, Bool.not_eq_true', Bool.not_eq_false, Bool.or_eq_true,
    List.any_eq_true, Scalar.sameKey_str_iff, Opcode.HasKey, ← Opcode.map_name_schema,
    exists_exists_and_eq_and]

namespace Operation

variable {fields : List (Scalar × Value)} {index : Int} {op : Operation Float}

theorem ofEntry_of_named {opcode : Opcode} (hnamed : opcode.IsNamed (Value.field fields "op"))
    (hknown : ∀ f ∈ fields, opcode.HasKey f.1) :
    ofEntry (.map fields) index = (⟨index, opcode, fields⟩ : Entry).operation := by
  obtain ⟨s, hs, hname⟩ := hnamed
  have hkeys : (⟨index, opcode, fields⟩ : Entry).unknownKeys = [] :=
    Entry.unknownKeys_eq_nil_iff.2 hknown
  simp only [ofEntry, hs, Opcode.ofName?_eq_some_iff.2 hname.symm, hkeys]
  rfl

theorem named_of_ofEntry (h : ofEntry (.map fields) index = .ok op) :
    ∃ opcode : Opcode, opcode.IsNamed (Value.field fields "op") ∧
      ∀ f ∈ fields, opcode.HasKey f.1 := by
  unfold ofEntry at h
  dsimp only at h
  cases hop : Value.field fields "op" with
  | scalar k =>
    cases k with
    | str s =>
      rw [hop] at h
      dsimp only at h
      cases hname : Opcode.ofName? (Text.upper (Text.trim s)) with
      | none =>
        rw [hname] at h
        cases h
      | some opcode =>
        refine ⟨opcode, ⟨s, rfl, (Opcode.ofName?_eq_some_iff.1 hname).symm⟩, ?_⟩
        rw [hname] at h
        dsimp only at h
        split at h
        · split at h <;> cases h
        · rename_i hkeys
          simpa [Entry.unknownKeys_eq_nil_iff] using hkeys
    | _ =>
      rw [hop] at h
      cases h
  | _ =>
    rw [hop] at h
    cases h

/-- **Which entries are accepted, and as which operation.** -/
theorem ofEntry_eq_ok_iff : ofEntry (.map fields) index = .ok op ↔
    op.opcode.IsNamed (Value.field fields "op") ∧ (∀ f ∈ fields, op.opcode.HasKey f.1) ∧
      op.opcode.Gives fields op.fieldValues := by
  constructor
  · intro h
    obtain ⟨opcode, hnamed, hknown⟩ := named_of_ofEntry h
    rw [ofEntry_of_named hnamed hknown, Entry.operation_eq_ok_iff] at h
    obtain ⟨rfl, hfields⟩ := h
    exact ⟨hnamed, hknown, hfields⟩
  · rintro ⟨hnamed, hknown, hfields⟩
    rw [ofEntry_of_named hnamed hknown, Entry.operation_eq_ok_iff]
    exact ⟨rfl, hfields⟩

theorem accepts_of_ofEntry (h : ofEntry (.map fields) index = .ok op) :
    op.opcode.Accepts fields := by
  obtain ⟨hnamed, hknown, hgives⟩ := ofEntry_eq_ok_iff.1 h
  exact ⟨hnamed, hknown, hgives.fits⟩

/-- What is well formed is accepted, unless it holds a number out of range. -/
theorem exists_ofEntry_eq_ok {opcode : Opcode} (h : opcode.Accepts fields)
    (hfields : ¬(Value.map fields).Overflows) : ∃ op, ofEntry (.map fields) index = .ok op := by
  -- a field holds no more numbers than the entry
  have hfield (name : String) : ¬(Value.field fields name).Overflows := by
    intro hlarge
    have hnull : Value.field fields name ≠ .null := by
      intro hnull
      rw [hnull] at hlarge
      obtain ⟨n, hn, -⟩ := hlarge
      cases hn
    obtain ⟨k, hk⟩ := Value.mem_of_field rfl hnull
    exact hfields (hlarge.mono fun n hn => .entry hk hn)
  obtain ⟨ws, hws⟩ := exists_forall₂ fun r hr => (h.fits r hr).exists_gives (hfield r.name)
  rw [ofEntry_of_named h.named h.known]
  exact Entry.exists_operation_eq_ok _ hws

end Operation

/-! ### The order of keys -/

namespace Value

theorem field_of_perm {fields fields' : List (Scalar × Value)} (hkeys : DistinctKeys fields)
    (hperm : fields.Perm fields') (name : String) : field fields name = field fields' name := by
  rw [field, field, lookup_of_perm hkeys hperm]

end Value

namespace Operation

/-- **The order of the keys does not matter.** -/
theorem ofEntry_of_perm {fields fields' : List (Scalar × Value)} (hkeys : DistinctKeys fields)
    (hperm : fields.Perm fields') {index index' : Int} {op : Operation Float} :
    ofEntry (.map fields) index = .ok op ↔ ofEntry (.map fields') index' = .ok op := by
  simp only [ofEntry_eq_ok_iff, Opcode.Gives, Value.field_of_perm hkeys hperm, hperm.mem_iff]

/-! ### Operations as entries -/

/-- The entry that lists the name and the fields of an operation. -/
def listing (op : Operation Float) : List (Scalar × Value) :=
  (.str "op", .str op.opcode.name) ::
    op.opcode.fields.zipWith (fun f v => (.str f, v)) op.fieldValues

/-- Every field of the operation holds what may stand in it. -/
def WellKinded (op : Operation Float) : Prop :=
  List.Forall₂ FieldRule.Fits op.opcode.schema op.fieldValues

/-- What may stand in a field of an operation is read back as it is. -/
theorem gives_of_fits (op : Operation Float) :
    List.Forall₂ (fun r w => FieldRule.Fits r w → r.Gives w w) op.opcode.schema op.fieldValues := by
  have whole (f : String) (n : Int) : FieldRule.Gives ⟨f, .whole, true⟩ (.int n) (.int n) :=
    .given (by simp) (.whole .int)
  have number (f : String) (x : Float) : FieldRule.Gives ⟨f, .number, true⟩ (.float x) (.float x) :=
    .given (by simp) (.number .float)
  have vector (f : String) (p : Vec3 Float) :
      FieldRule.Gives ⟨f, .vector, true⟩ (fieldValues.vector p) (fieldValues.vector p) :=
    .given (by simp [fieldValues.vector]) (.vector (.tuple .float .float .float))
  have axis (f : String) (a : Axis) :
      FieldRule.Gives ⟨f, .axis, true⟩ (.int a.index) (.int a.index) :=
    .given (by simp) (.axis (.index .int))
  have name (f : String) (b : Bool) (s : String) (h : FieldRule.Fits ⟨f, .name, b⟩ (.str s)) :
      FieldRule.Gives ⟨f, .name, b⟩ (.str s) (.str s) := by
    refine .given (by simp) ?_
    cases h.admits (by simp) with
    | name hs => exact .name hs
  have name? (f : String) (s : Option String)
      (h : FieldRule.Fits ⟨f, .name, false⟩ (fieldValues.name? s)) :
      FieldRule.Gives ⟨f, .name, false⟩ (fieldValues.name? s) (fieldValues.name? s) := by
    cases s with
    | none => exact .missing rfl
    | some s => exact name f false s h
  cases op <;>
    simp +contextual only [opcode, Opcode.schema, fieldValues, List.forall₂_cons,
      List.Forall₂.nil, whole, number, vector, axis, name, name?, implies_true, and_true]

theorem field_listing (op : Operation Float) : List.Forall₂
    (fun r w => Value.field op.listing r.name = w) op.opcode.schema op.fieldValues := by
  cases op <;> repeat constructor

theorem hasKey_of_mem_listing (op : Operation Float) :
    ∀ f ∈ op.listing, op.opcode.HasKey f.1 := by
  cases op <;>
    simp [listing, opcode, Opcode.HasKey, Opcode.schema, Opcode.fields, fieldValues]

/-- **Every operation with well-kinded fields is read from its listing.** -/
theorem ofEntry_listing {op : Operation Float} (h : op.WellKinded) (index : Int) :
    ofEntry (.map op.listing) index = .ok op := by
  have hop : Value.field op.listing "op" = .str op.opcode.name := by
    simp [listing, Value.field, Value.lookup, Scalar.sameKey_str_iff]
  have hgives := List.Forall₂.mp (fun r w hw hfits => hw hfits) op.gives_of_fits h
  refine ofEntry_eq_ok_iff.2 ⟨⟨op.opcode.name, hop, op.opcode.upper_trim_name⟩,
    op.hasKey_of_mem_listing, ?_⟩
  refine List.Forall₂.mp (fun r w hfield h => ?_) op.field_listing hgives
  rwa [hfield]

/-! ### The whole of it -/

/-- **Which entries are accepted, and what they give.**  An entry without a number out of range is
accepted exactly when it is well formed as an entry of some operation.  What is read is an operation
of the name in the entry, and each of its fields holds what the entry gives for it.  The order of
the keys makes no difference, and every operation with well-kinded fields comes from its listing. -/
theorem ofEntry_exact (fields : List (Scalar × Value)) (index : Int) :
    (¬(Value.map fields).Overflows →
      ((∃ op, ofEntry (.map fields) index = .ok op) ↔ ∃ opcode : Opcode, opcode.Accepts fields)) ∧
    (∀ op, ofEntry (.map fields) index = .ok op →
      op.opcode.IsNamed (Value.field fields "op") ∧ op.opcode.Gives fields op.fieldValues) ∧
    (DistinctKeys fields → ∀ fields', fields.Perm fields' → ∀ index' op,
      ofEntry (.map fields) index = .ok op ↔ ofEntry (.map fields') index' = .ok op) ∧
    ∀ op : Operation Float, op.WellKinded → ofEntry (.map op.listing) index = .ok op := by
  refine ⟨fun hfields => ⟨?_, ?_⟩, fun op h => ?_, fun hkeys fields' hperm index' op =>
    ofEntry_of_perm hkeys hperm, fun op h => ofEntry_listing h index⟩
  · rintro ⟨op, h⟩
    exact ⟨op.opcode, accepts_of_ofEntry h⟩
  · rintro ⟨opcode, h⟩
    exact exists_ofEntry_eq_ok h hfields
  · obtain ⟨hnamed, -, hgives⟩ := ofEntry_eq_ok_iff.1 h
    exact ⟨hnamed, hgives⟩

/-- A turn about an axis that is named by a capital between blanks, with a whole number of degrees
and no knob. -/
theorem ofEntry_exact_rotate :
    let fields : List (Scalar × Value) := [(.str "axis", .str " Y "), (.str "degrees", .int 90),
      (.str "op", .str " rotate"), (.str "knob", .null)]
    ∃ x : Float, OfInteger.ofInteger? 90 = some x ∧
      ofEntry (.map fields) 4 = .ok (.rotate .y x none) ∧
      ofEntry (.map fields.reverse) 0 = .ok (.rotate .y x none) ∧
      ofEntry (.map (rotate .y x none).listing) 4 = .ok (.rotate .y x none) := by
  intro fields
  have hexact := ofEntry_exact fields 4
  obtain ⟨x, hx⟩ : ∃ x : Float, OfInteger.ofInteger? 90 = some x :=
    Option.isSome_iff_exists.1 (by decide +kernel)
  have hname : Text.upper (Text.trim " rotate") = Opcode.rotate.name := by decide +kernel
  have hletter : Axis.y.IsNamed (Text.trim " Y ") := .inr (by decide +kernel)
  have haxis : FieldRule.Gives ⟨"axis", .axis, true⟩ (.str " Y ") (.int Axis.y.index) :=
    .given (by simp) (.axis (.letter hletter))
  have hdegrees : FieldRule.Gives ⟨"degrees", .number, true⟩ (.int 90) (.float x) :=
    .given (by simp) (.number (.int hx))
  have hknob : FieldRule.Gives ⟨"knob", .name, false⟩ .null .null := .missing rfl
  have hgives : Opcode.rotate.Gives fields (rotate .y x none).fieldValues :=
    .cons haxis (.cons hdegrees (.cons hknob .nil))
  have hfits : Opcode.rotate.Accepts fields :=
    ⟨⟨_, rfl, hname⟩, by simp [fields, Opcode.HasKey, Opcode.schema], hgives.fits⟩
  have hfields : ¬(Value.map fields).Overflows := by
    rintro ⟨n, hn, hlarge⟩
    cases hn with
    | entry hv hn =>
      simp only [fields, List.mem_cons, Prod.mk.injEq, List.not_mem_nil, or_false] at hv
      rcases hv with ⟨-, rfl⟩ | ⟨-, rfl⟩ | ⟨-, rfl⟩ | ⟨-, rfl⟩ <;> cases hn
      rw [hx] at hlarge
      cases hlarge
  have hkeys : DistinctKeys fields := by
    simp [DistinctKeys, fields, Scalar.sameKey]
  obtain ⟨op, hop⟩ := (hexact.1 hfields).2 ⟨.rotate, hfits⟩
  obtain ⟨⟨_, ⟨⟩, hopcode⟩, hvalues⟩ := hexact.2.1 op hop
  have hrotate : op.opcode = .rotate := Opcode.name_injective (hopcode.symm.trans hname)
  rw [hrotate] at hvalues
  obtain rfl : op = .rotate .y x none :=
    ext_fieldValues hrotate (hvalues.unique hgives)
  have hkinds : (rotate .y x none).WellKinded :=
    .cons ⟨by simp, fun _ => .axis (.index .int)⟩ <|
      .cons ⟨by simp, fun _ => .float x⟩ <| .cons hknob.fits .nil
  exact ⟨x, hx, hop, (hexact.2.2.1 hkeys _ fields.reverse_perm.symm 0 _).1 hop,
    hexact.2.2.2 _ hkinds⟩

end Operation

end Flipbook
