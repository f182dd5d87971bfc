import Flipbook.Proofs.BufferCalls
import Flipbook.Proofs.MeshSize
import Flipbook.Proofs.RowArrays
import Flipbook.Stage.Session

/-!
# Unchecked fields that are as they should be

An operation with unchecked fields goes a longer way to its drawing than an operation of a script:
its shape is looked up by name, and its points are read from values.  Where its fields are as they
should be, it comes to the same (`Interpreter.performLoose_loose`).
-/

namespace Flipbook

open GeometryBuffer NumArray

/-! ### Shapes by name -/

namespace ShapeCatalog

theorem normalize_primitives :
    ∀ name ∈ primitives.map NamedShape.name, Registry.normalize name = name ∧ name ≠ "" := by
  decide +kernel

theorem find_primitive {shape : NamedShape} (h : shape ∈ primitives) :
    standard.find (.str shape.name) = .ok shape := by
  obtain ⟨hname, hne⟩ := normalize_primitives shape.name (List.mem_map_of_mem h)
  have hkey : Registry.key? (.str shape.name) = .ok shape.name := by
    simp only [Registry.key?, hname, if_neg hne]
  have hentry : standard.entries.get? shape.name = some shape := by
    simp only [primitives, List.mem_cons, List.not_mem_nil, or_false] at h
    rcases h with rfl | rfl | rfl | rfl <;> rfl
  simp only [find, Registry.get, hkey, bind, Except.bind, hentry]
  rfl

/-- A shape is built by its name when nothing else is meant by the parameters. -/
theorem perform_primitive {shape : NamedShape} (h : shape ∈ primitives) (steps : Int)
    {params : Parameters} (hkind : Value.lookup params (.str "kind") = none)
    (hinto : Value.lookup params (.str "into") = none) (b : GeometryBuffer Float) :
    (BufferCall.build (.str shape.name) steps params).perform b =
      (shape.build steps params (some b)).outcome b := by
  simp only [BufferCall.perform, build, isAmbiguous, hkind, hinto, find_primitive h]
  rfl

end ShapeCatalog

namespace ShapeBuilder

variable {b : GeometryBuffer Float}

theorem outcome_adding {β γ : Type} {kind : BufferKind} {first : Parameters → Except Fault β}
    {second : Parameters → β → Except Fault γ}
    {add : γ → GeometryBuffer Float → Outcome (GeometryBuffer Float)} {params : Parameters}
    (hkind : b.kind = kind) :
    (adding kind first second add params (some b)).outcome b =
      .given b (first params >>= second params) fun c => add c b := by
  have htarget : target kind params (some b) = .ok b := if_pos hkind
  rw [adding, prepared_of_target htarget]
  cases first params >>= second params with
  | error f => rfl
  | ok c => exact Built.outcome_result (add c b) b

/-- A shape that is divided into steps is its mesh, when there are steps enough. -/
theorem outcome_round {params : Parameters} {steps : Int} {mesh : Nat → Array (Vec3 Float)}
    {second : Parameters → Nat → Except Fault (Array (Vec3 Float))} (hkind : b.kind = .polygons)
    (hsteps : Parameters.steps params steps = Fault.ofGeometry (Mesh.checkedSteps steps))
    (hsecond : ∀ n, second params n = .ok (mesh n)) :
    (adding .polygons (Parameters.steps · steps) second (fun mesh b => b.addVertices mesh) params
        (some b)).outcome b =
      .given b (Fault.ofGeometry ((Mesh.checkedSteps steps).map mesh)) b.addVertices := by
  rw [outcome_adding hkind, hsteps]
  cases Mesh.checkedSteps steps with
  | error f => rfl
  | ok n =>
    show Outcome.given b (second params n) b.addVertices = _
    rw [hsecond]
    rfl

theorem unitCorners_eq : unitCorners = ofRows (Mesh.boxCorners.map Mesh.BoxCorner.unit) := by
  rw [ofRows, List.length_map, List.flatMap_map]
  rfl

theorem box_corners (corner extent : Vec3 Float) :
    (do
      let extent ← combine (· * ·) (vector extent.toList)
        (vector (Mesh.boxDirection : Vec3 Float).toList)
      combine (· + ·) (vector corner.toList) (← combine (· * ·) unitCorners extent)) =
    .ok (ofRows (Mesh.box corner extent).toList) := by
  let hanging := extent.zipWith (· * ·) Mesh.boxDirection
  have hextent : combine (· * ·) (vector extent.toList)
      (vector (Mesh.boxDirection : Vec3 Float).toList) = .ok (vector hanging.toList) := rfl
  have hunits : combine (· * ·) unitCorners (vector hanging.toList) =
      .ok (ofRows (Mesh.boxCorners.map fun c =>
        (Mesh.BoxCorner.unit c).zipWith (· * ·) hanging)) := by
    rw [combine, unitCorners_eq, zipWith?_ofRows_vector, List.map_map]
    rfl
  rw [hextent]
  show combine (· * ·) unitCorners (vector hanging.toList) >>=
    combine (· + ·) (vector corner.toList) = _
  rw [hunits]
  show combine (· + ·) (vector corner.toList) (ofRows _) = _
  rw [combine, zipWith?_vector_ofRows, List.map_map]
  rfl

end ShapeBuilder

namespace Interpreter

variable {σ : Type} {I : Interpreter Float σ} {symbols : SymbolTable Float} {s : Stage Float σ}
  {b : GeometryBuffer Float}

theorem looseShape_box (hb : b.kind = .polygons) (corner extent : Vec3 Float)
    (name system : Option String) :
    I.looseShape "box" ["d0", "d1"] (Operation.box corner extent name system).loose b =
      b.addVertices (Mesh.box corner extent) := by
  let params := (Operation.box corner extent name system).loose.parameters ["d0", "d1"]
  have hshape : ⟨0, "box", ShapeBuilder.box⟩ ∈ ShapeCatalog.primitives := List.mem_cons_self
  have hpoints : pointsOf (ofRows (Mesh.box corner extent).toList) =
      .ok (Mesh.box corner extent) := by
    show Except.ok (triples ((Mesh.box corner extent).toList.flatMap Vec3.toList)).toArray = _
    rw [triples_rows]
  calc I.looseShape "box" ["d0", "d1"] (Operation.box corner extent name system).loose b
      = (ShapeBuilder.box I.steps params (some b)).outcome b :=
        ShapeCatalog.perform_primitive hshape I.steps rfl rfl b
    _ = .given b (.ok (ofRows (Mesh.box corner extent).toList)) b.extend := by
        rw [ShapeBuilder.box, ShapeBuilder.outcome_adding hb, ← ShapeBuilder.box_corners]
        rfl
    _ = b.addVertices (Mesh.box corner extent) := by
        show b.extend (ofRows (Mesh.box corner extent).toList) = _
        rw [extend, hpoints]
        rfl

theorem looseShape_sphere (hb : b.kind = .polygons) (centre : Vec3 Float) (radius : Float)
    (name system : Option String) :
    I.looseShape "sphere" ["d", "r"] (Operation.sphere centre radius name system).loose b =
      .given b (Fault.ofGeometry ((Mesh.checkedSteps I.steps).map (Mesh.sphere centre radius)))
        b.addVertices := by
  have hshape : ⟨2, "sphere", ShapeBuilder.sphere⟩ ∈ ShapeCatalog.primitives := by
    simp [ShapeCatalog.primitives]
  exact (ShapeCatalog.perform_primitive hshape I.steps rfl rfl b).trans
    (ShapeBuilder.outcome_round hb rfl fun _ => rfl)

theorem looseShape_torus (hb : b.kind = .polygons) (centre : Vec3 Float) (tube ring : Float)
    (name system : Option String) :
    I.looseShape "torus" ["d", "r0", "r1"] (Operation.torus centre tube ring name system).loose b =
      .given b (Fault.ofGeometry ((Mesh.checkedSteps I.steps).map (Mesh.torus centre tube ring)))
        b.addVertices := by
  have hshape : ⟨3, "torus", ShapeBuilder.torus⟩ ∈ ShapeCatalog.primitives := by
    simp [ShapeCatalog.primitives]
  exact (ShapeCatalog.perform_primitive hshape I.steps rfl rfl b).trans
    (ShapeBuilder.outcome_round hb rfl fun _ => rfl)

theorem looseShape_line (hb : b.kind = .edges) (start stop : Vec3 Float)
    (name startSystem stopSystem : Option String) :
    I.looseShape "line" ["p0", "p1"]
        (Operation.line start stop name startSystem stopSystem).loose b =
      b.addVertices #[start, stop] := by
  let params :=
    (Operation.line start stop name startSystem stopSystem).loose.parameters ["p0", "p1"]
  have hshape : ⟨1, "line", ShapeBuilder.line⟩ ∈ ShapeCatalog.primitives := by
    simp [ShapeCatalog.primitives]
  calc I.looseShape "line" ["p0", "p1"]
        (Operation.line start stop name startSystem stopSystem).loose b
      = (ShapeBuilder.line I.steps params (some b)).outcome b :=
        ShapeCatalog.perform_primitive hshape I.steps rfl rfl b
    _ = b.addEdge (Operation.fieldValues.vector start) (Operation.fieldValues.vector stop) := by
        rw [ShapeBuilder.line, ShapeBuilder.outcome_adding hb]
        rfl
    _ = b.addVertices #[start, stop] := adds_addEdge _ _ b hb

theorem factorOfValue_name (knob : Option String) :
    factorOfValue symbols (Operation.fieldValues.name? knob) = factor symbols knob := by
  cases knob <;> rfl

theorem materialOfValue_name (name : Option String) :
    I.materialOfValue symbols (Operation.fieldValues.name? name) = I.material symbols name := by
  cases name with
  | none => rfl
  | some name =>
    show SymbolKind.constants.resolve symbols.constants? (.str name) =
      I.material symbols (some name)
    rw [material, SymbolKind.resolve]
    cases symbols.constants? name <;> rfl

theorem axis_ofValue (axis : Axis) : Axis.ofValue (.int axis.index) = axis := by
  cases axis <;> rfl

theorem looseMatrix_eq (matrix : Vec3 Float → Matrix4 Float) {op : LooseOperation} {d : Vec3 Float}
    {knob : Option String} (hd : op.field "d" = Operation.fieldValues.vector d)
    (hknob : op.field "knob" = Operation.fieldValues.name? knob) :
    looseMatrix matrix symbols op = (factor symbols knob).map fun k => matrix (d.scale k) := by
  rw [looseMatrix, hd, hknob, factorOfValue_name]
  cases factor symbols knob <;> rfl

theorem looseTurn_eq (axis : Axis) (degrees : Float) (knob : Option String) :
    looseTurn symbols (Operation.rotate axis degrees knob).loose =
      (factor symbols knob).map fun k => .rotation axis (degrees * Circular.degree * k) := by
  show (do
    let k ← factorOfValue symbols (Operation.fieldValues.name? knob)
    return Matrix4.rotation (.ofValue (.int axis.index)) (degrees * Circular.degree * k)) = _
  rw [factorOfValue_name, axis_ofValue]
  cases factor symbols knob <;> rfl

theorem drawLooseSolid_eq {shape : String} {fields : List String} {op : LooseOperation}
    {name : Option String} {mesh : Except GeometryFault (Array (Vec3 Float))}
    (hname : op.field "constants" = Operation.fieldValues.name? name)
    (hshape : I.looseShape shape fields op s.frame.polygons =
      .given s.frame.polygons (Fault.ofGeometry mesh) s.frame.polygons.addVertices) :
    I.drawLooseSolid shape fields symbols op s = I.drawShape symbols name mesh s := by
  unfold drawLooseSolid drawShape
  rw [hname, materialOfValue_name, hshape]
  cases I.material symbols name with
  | error f => rfl
  | ok c => cases mesh <;> rfl

/-- **An operation whose fields are as they should be does what the operation of a script does.** -/
theorem performLoose_loose (hpolygons : s.frame.polygons.kind = .polygons)
    (hedges : s.frame.edges.kind = .edges) (op : Operation Float) :
    I.performLoose symbols op.loose s = I.perform symbols op s := by
  cases op with
  | frames | basename | vary | push | pop | save | display => rfl
  | move d knob => exact congrArg (transform · s) (looseMatrix_eq .shift rfl rfl)
  | scale d knob => exact congrArg (transform · s) (looseMatrix_eq .scaling rfl rfl)
  | rotate axis degrees knob =>
    exact congrArg (transform · s) (looseTurn_eq axis degrees knob)
  | box corner extent name system =>
    exact drawLooseSolid_eq rfl (looseShape_box hpolygons corner extent name system)
  | sphere centre radius name system =>
    exact drawLooseSolid_eq rfl (looseShape_sphere hpolygons centre radius name system)
  | torus centre tube ring name system =>
    exact drawLooseSolid_eq rfl (looseShape_torus hpolygons centre tube ring name system)
  | line start stop name startSystem stopSystem =>
    exact congrArg (I.drawLine · s)
      (looseShape_line hedges start stop name startSystem stopSystem)

end Interpreter

end Flipbook
