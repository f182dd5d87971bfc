import Flipbook.Proofs.FieldKinds

/-!
# The fields of operations

`Opcode.schema` lists the fields of every operation with their kinds.  Each is read by its rule: a
value of its kind is converted, and only what is not required may be missing (`FieldRule.Gives`).
Reading the fields of an entry is reading them all by the schema (`Entry.operation_eq`), and an
operation is known by its name and the values of its fields (`Operation.ext_fieldValues`), so that
`Entry.operation_eq_ok_iff` says which operation an entry gives.
-/

namespace Flipbook

/-! ### Schemas -/

/-- What an operation says about one of its fields. -/
structure FieldRule where
  /-- The name of the field. -/
  name : String
  /-- What may stand in it. -/
  kind : FieldKind
  /-- The field must be there. -/
  required : Bool

/-- The fields of an operation with their kinds. -/
def Opcode.schema : Opcode → List FieldRule
  | frames => [⟨"num_frames", .whole, true⟩]
  | basename => [⟨"name", .name, true⟩]
  | vary => [⟨"knob", .name, true⟩, ⟨"start_frame", .whole, true⟩, ⟨"end_frame", .whole, true⟩,
      ⟨"start_val", .number, true⟩, ⟨"end_val", .number, true⟩]
  | push | pop | display => []
  | move | scale => [⟨"d", .vector, true⟩, ⟨"knob", .name, false⟩]
  | rotate => [⟨"axis", .axis, true⟩, ⟨"degrees", .number, true⟩, ⟨"knob", .name, false⟩]
  | box => [⟨"d0", .vector, true⟩, ⟨"d1", .vector, true⟩, ⟨"constants", .name, false⟩,
      ⟨"cs", .name, false⟩]
  | sphere => [⟨"d", .vector, true⟩, ⟨"r", .number, true⟩, ⟨"constants", .name, false⟩,
      ⟨"cs", .name, false⟩]
  | torus => [⟨"d", .vector, true⟩, ⟨"r0", .number, true⟩, ⟨"r1", .number, true⟩,
      ⟨"constants", .name, false⟩, ⟨"cs", .name, false⟩]
  | line => [⟨"p0", .vector, true⟩, ⟨"p1", .vector, true⟩, ⟨"constants", .name, false⟩,
      ⟨"cs0", .name, false⟩, ⟨"cs1", .name, false⟩]
  | save => [⟨"filename", .name, true⟩]

theorem Opcode.map_name_schema (op : Opcode) : op.schema.map FieldRule.name = op.fields := by
  cases op <;> rfl

namespace FieldRule

variable {r : FieldRule} {v w : Value}

/-- The value may stand in the field, where a missing value is null. -/
structure Fits (r : FieldRule) (v : Value) : Prop where
  /-- A field that is required is not missing. -/
  present : r.required = true → v ≠ .null
  /-- A value is of the kind of the field. -/
  admits : v ≠ .null → r.kind.Admits v

/-- The value of the field in an entry gives the one in the operation. -/
inductive Gives (r : FieldRule) : Value → Value → Prop
  /-- What is missing and not required is null. -/
  | missing (h : r.required = false) : Gives r .null .null
  /-- A value is converted. -/
  | given {v w : Value} (hv : v ≠ .null) (h : r.kind.Converts v w) : Gives r v w

theorem Gives.fits (h : r.Gives v w) : r.Fits v := by
  cases h with
  | missing h => exact ⟨fun hrequired => absurd hrequired (Bool.eq_false_iff.1 h), absurd rfl⟩
  | given hnull h => exact ⟨fun _ => hnull, fun _ => h.admits⟩

theorem Fits.exists_gives (h : r.Fits v) (hv : ¬v.Overflows) : ∃ w, r.Gives v w := by
  by_cases hnull : v = .null
  · subst hnull
    exact ⟨.null, .missing (Bool.eq_false_iff.2 fun hrequired => h.present hrequired rfl)⟩
  · obtain ⟨w, hw⟩ := FieldKind.exists_converts (h.admits hnull) hv
    exact ⟨w, .given hnull hw⟩

theorem Gives.unique {w' : Value} (h : r.Gives v w) (h' : r.Gives v w') : w = w' := by
  cases h with
  | missing =>
    cases h' with
    | missing => rfl
    | given hnull => exact absurd rfl hnull
  | given hnull h =>
    cases h' with
    | missing => exact absurd rfl hnull
    | given _ h' =>
      rw [← FieldKind.read_eq_ok_iff] at h h'
      exact Except.ok.inj (h.symm.trans h')

end FieldRule

/-- The values are those that the fields of an entry give for an operation. -/
def Opcode.Gives (op : Opcode) (fields : List (Scalar × Value)) (ws : List Value) : Prop :=
  List.Forall₂ (fun r w => FieldRule.Gives r (Value.field fields r.name) w) op.schema ws

namespace Opcode.Gives

variable {op : Opcode} {fields : List (Scalar × Value)} {ws ws' : List Value}

theorem fits (h : op.Gives fields ws) : ∀ r ∈ op.schema, r.Fits (Value.field fields r.name) :=
  ((List.forall₂_and_left _ _).1 (h.imp fun _ _ hgives => ⟨hgives.fits, hgives⟩)).1

theorem unique (h : op.Gives fields ws) (h' : op.Gives fields ws') : ws = ws' :=
  have hunique : Relator.RightUnique
      fun (r : FieldRule) w => r.Gives (Value.field fields r.name) w :=
    fun _ _ _ => FieldRule.Gives.unique
  List.right_unique_forall₂' hunique h h'

end Opcode.Gives

/-! ### Fields read by their rules -/

namespace Entry

variable {β γ : Type} (e : Entry)

theorem read_map (kind : Value → Except FieldError β) (g : β → γ) (field : String) (v : Value) :
    e.read (fun v => (kind v).map g) field v = (e.read kind field v).map g := by
  unfold read
  dsimp only
  cases kind v <;> rfl

theorem required_map (kind : Value → Except FieldError β) (g : β → γ) (field : String) :
    e.required (fun v => (kind v).map g) field = (e.required kind field).map g := by
  unfold required
  cases e.value? field with
  | none => rfl
  | some v => exact e.read_map kind g field v

theorem optional_map (kind : Value → Except FieldError β) (g : β → γ) (field : String) :
    e.optional (fun v => (kind v).map g) field = (e.optional kind field).map (·.map g) := by
  unfold optional
  cases e.value? field with
  | none => rfl
  | some v =>
    dsimp only
    rw [read_map]
    cases e.read kind field v <;> rfl

/-- The value of a field that is read by its rule. -/
def readField (r : FieldRule) : Except Fault Value :=
  if r.required then e.required r.kind.read r.name
  else (e.optional r.kind.read r.name).map (·.getD .null)

theorem value?_of_null {field : String} (h : Value.field e.fields field = .null) :
    e.value? field = none := by
  rw [value?, h]

theorem value?_of_ne_null {field : String} (h : Value.field e.fields field ≠ .null) :
    e.value? field = some (Value.field e.fields field) := by
  unfold value?
  split
  · exact absurd ‹_› h
  · rfl

theorem read_eq_ok_iff {kind : FieldKind} {field : String} {v w : Value} :
    e.read kind.read field v = .ok w ↔ kind.Converts v w :=
  mapError_eq_ok_iff.trans FieldKind.read_eq_ok_iff

/-- **A field is read as its rule says.** -/
theorem readField_eq_ok_iff {r : FieldRule} {w : Value} :
    e.readField r = .ok w ↔ r.Gives (Value.field e.fields r.name) w := by
  unfold readField required optional
  by_cases hnull : Value.field e.fields r.name = .null
  · -- a missing value is refused or null
    rw [e.value?_of_null hnull, hnull]
    constructor
    · intro h
      split at h
      · cases h
      · cases h
        exact .missing (Bool.eq_false_iff.2 ‹_›)
    · rintro (h | ⟨hv, -⟩)
      · rw [h]
        rfl
      · exact absurd rfl hv
  · rw [e.value?_of_ne_null hnull]
    have hgives : r.Gives (Value.field e.fields r.name) w ↔
        e.read r.kind.read r.name (Value.field e.fields r.name) = .ok w := by
      rw [read_eq_ok_iff]
      refine ⟨fun h => ?_, .given hnull⟩
      generalize Value.field e.fields r.name = v at h hnull
      cases h with
      | missing => exact absurd rfl hnull
      | given _ h => exact h
    rw [hgives]
    dsimp only
    split
    · rfl
    · cases e.read r.kind.read r.name (Value.field e.fields r.name) <;> rfl

/-- **The fields of an operation are read one after the other by its schema.** -/
theorem operation_eq : e.operation.map (fun op => (op.opcode, op.fieldValues)) =
    (e.op.schema.mapM e.readField).map (Prod.mk e.op) := by
  have hwhole (f) : e.readField ⟨f, .whole, true⟩ = Value.int <$> e.required Field.whole f :=
    e.required_map ..
  have hnumber (f) : e.readField ⟨f, .number, true⟩ = Value.float <$> e.required Field.number f :=
    e.required_map ..
  have hvector (f) : e.readField ⟨f, .vector, true⟩ =
      Operation.fieldValues.vector <$> e.required Field.vector f := e.required_map ..
  have hname (f) : e.readField ⟨f, .name, true⟩ = Value.str <$> e.required Field.name f :=
    e.required_map ..
  have haxis (f) : e.readField ⟨f, .axis, true⟩ =
      (fun a : Axis => Value.int a.index) <$> e.required Field.axis f := e.required_map ..
  have hname? (f) : e.readField ⟨f, .name, false⟩ =
      Operation.fieldValues.name? <$> e.optional Field.name f := by
    show (e.optional _ f).map _ = _
    refine (congrArg _ (e.optional_map Field.name Value.str f)).trans ?_
    cases e.optional Field.name f <;> rfl
  have hmap {β γ : Type} (g : β → γ) (x : Except Fault β) : x.map g = g <$> x := rfl
  unfold operation
  -- on both sides the same fields are read in the same order
  cases e.op <;>
    simp only [hmap, Opcode.schema, List.mapM_cons, List.mapM_nil, hwhole, hnumber, hvector, hname,
      haxis, hname?, map_eq_pure_bind, bind_assoc, pure_bind] <;> rfl

end Entry

namespace Operation

theorem vector_injective : Function.Injective fieldValues.vector := by
  rintro ⟨x, y, z⟩ ⟨x', y', z'⟩ h
  simpa [fieldValues.vector, Vec3.toList] using h

theorem name?_injective : Function.Injective fieldValues.name? := by
  rintro (_ | s) (_ | t) h
  · rfl
  · cases h
  · cases h
  · cases h
    rfl

theorem axis_injective : Function.Injective Axis.index := by
  rintro (_ | _ | _) (_ | _ | _) h <;> first | rfl | cases h

theorem ext_fieldValues {op op' : Operation Float} (hop : op.opcode = op'.opcode)
    (hfields : op.fieldValues = op'.fieldValues) : op = op' := by
  cases op <;> cases op' <;> cases hop <;>
    simp only [fieldValues, List.cons.injEq, Value.scalar.injEq, Scalar.int.injEq, and_true,
      Scalar.str.injEq, Scalar.float.injEq, vector_injective.eq_iff, name?_injective.eq_iff,
      Nat.cast_inj, axis_injective.eq_iff] at hfields
  case vary.vary.refl v v' =>
    cases v
    cases v'
    simp_all
  all_goals simp_all

end Operation

namespace Entry

variable (e : Entry)

theorem gives_iff {ws : List Value} :
    e.op.Gives e.fields ws ↔ e.op.schema.mapM e.readField = .ok ws := by
  simp only [Opcode.Gives, ← readField_eq_ok_iff]
  exact ⟨mapM_eq_of_forall₂, forall₂_of_mapM_eq⟩

/-- **What reading the fields of an entry gives.** -/
theorem operation_eq_ok_iff {op : Operation Float} :
    e.operation = .ok op ↔ op.opcode = e.op ∧ e.op.Gives e.fields op.fieldValues := by
  rw [gives_iff]
  have heq := e.operation_eq
  constructor
  · intro h
    rw [h] at heq
    obtain ⟨ws, hws, hop⟩ := exists_of_map_eq_ok heq.symm
    obtain ⟨hopcode, rfl⟩ := Prod.mk.inj hop
    exact ⟨hopcode.symm, hws⟩
  · rintro ⟨hop, hfields⟩
    rw [hfields] at heq
    obtain ⟨op', hop', hvalues⟩ := exists_of_map_eq_ok heq
    obtain ⟨hopcode, hvalues⟩ := Prod.mk.inj hvalues
    rw [hop', Operation.ext_fieldValues (hopcode.trans hop.symm) hvalues]

/-- Any values that the fields give make up an operation. -/
theorem exists_operation_eq_ok {ws : List Value} (h : e.op.Gives e.fields ws) :
    ∃ op, e.operation = .ok op := by
  have heq := e.operation_eq
  rw [e.gives_iff.1 h] at heq
  obtain ⟨op, hop, -⟩ := exists_of_map_eq_ok heq
  exact ⟨op, hop⟩

end Entry

end Flipbook
