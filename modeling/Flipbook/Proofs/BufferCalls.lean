import Flipbook.Proofs.BufferPoints
import Flipbook.Proofs.PointRows
import Flipbook.Shape.BufferCall
import Mathlib.Data.List.Forall2

/-!
# A buffer is the list of its points

Seen from outside a buffer is a list: every call either changes the list as `BufferCall.onList` says
and lets the room grow by doubling, or it is refused and changes nothing at all
(`BufferCall.answers_perform`).  Hence after any calls the buffer represents the list that the calls
make of the empty one (`BufferCall.represents_run`), whatever the columns after its points hold.

What adds points, be it an array, an edge, a polygon or a builder, does so in one way
(`GeometryBuffer.Adds`): it has the points ready before it looks at what the buffer holds, and then
appends them.
-/

namespace Flipbook

namespace GeometryBuffer

/-- The points fit into the columns and make up whole elements. -/
structure Sound (b : GeometryBuffer Float) : Prop where
  fits : b.Fits
  whole : b.kind.stride ∣ b.count

theorem sound_withCapacity (kind : BufferKind) (requested : Int) :
    (withCapacity kind requested : GeometryBuffer Float).Sound :=
  ⟨Nat.zero_le _, Nat.dvd_zero _⟩

/-- The room has been doubled as often as `count` points made necessary, and not more often. -/
def GrownFor (b : GeometryBuffer Float) (count capacity : Nat) : Prop :=
  ∃ rounds, (∀ i < rounds, b.capacity * 2 ^ i < count) ∧ capacity = b.capacity * 2 ^ rounds

theorem grownFor_self (b : GeometryBuffer Float) (count : Nat) : b.GrownFor count b.capacity :=
  ⟨0, fun i hi => absurd hi (Nat.not_lt_zero i), (Nat.mul_one _).symm⟩

/-- What a call makes of a buffer: it leaves it with the points `ps` and lets the room grow for
them, or it is refused and leaves it as it is. -/
def Answers (b : GeometryBuffer Float) (o : Outcome (GeometryBuffer Float)) :
    Option (List (Vec4 Float)) → Prop
  | some ps => o.fault? = none ∧ o.state.Sound ∧ o.state.kind = b.kind ∧
      o.state.points.toList = ps ∧ b.GrownFor o.state.count o.state.capacity
  | none => ∃ f, o = .failed b f

/-- The list with points added to its end, if they make up whole elements. -/
def appended (kind : BufferKind) (x : Except Fault (Array (Vec3 Float)))
    (ps : List (Vec4 Float)) : Option (List (Vec4 Float)) :=
  match x with
  | .ok vertices =>
    if vertices.size % kind.stride = 0 then
      some (ps ++ vertices.toList.map fun v => ⟨v.x, v.y, v.z, 1⟩)
    else none
  | .error _ => none

theorem exists_vertices_of_appended {kind : BufferKind} {x : Except Fault (Array (Vec3 Float))}
    {ps qs : List (Vec4 Float)} (h : appended kind x ps = some qs) :
    ∃ vs : List (Vec3 Float), qs = ps ++ vs.map fun v => ⟨v.x, v.y, v.z, 1⟩ := by
  unfold appended at h
  split at h
  · split at h
    · exact ⟨_, (Option.some.inj h).symm⟩
    · cases h
  · cases h

/-- The call adds the points that `x` gives to any buffer of the kind. -/
def Adds (kind : BufferKind) (add : GeometryBuffer Float → Outcome (GeometryBuffer Float))
    (x : Except Fault (Array (Vec3 Float))) : Prop :=
  ∀ b, b.kind = kind → add b = .given b x b.addVertices

variable {b : GeometryBuffer Float} {kind : BufferKind}

theorem Adds.answers {add : GeometryBuffer Float → Outcome (GeometryBuffer Float)}
    {x : Except Fault (Array (Vec3 Float))} (hadd : Adds kind add x) (hkind : b.kind = kind)
    (hb : b.Sound) : b.Answers (add b) (appended kind x b.points.toList) := by
  subst hkind
  rw [hadd b rfl]
  cases x with
  | error f => exact ⟨f, rfl⟩
  | ok vertices =>
    have hsize : (vertices.map Vec3.homogeneous).size = vertices.size := Array.size_map
    by_cases hwhole : vertices.size % b.kind.stride = 0
    · obtain ⟨b', happend, hfits, hkind, hpoints, hcount, hcapacity⟩ :=
        hb.fits.append_of_dvd (hsize ▸ hwhole)
      obtain ⟨rounds, hbefore, -, hrounds⟩ := hb.fits.capacity_reserve vertices.size
      rw [hsize] at hcount hcapacity
      simp only [appended, if_pos hwhole, Outcome.given, addVertices, happend]
      refine ⟨rfl, ⟨hfits, ?_⟩, hkind, ?_, rounds, ?_, hcapacity.trans hrounds⟩
      · rw [Outcome.done_state, hkind, hcount]
        exact Nat.dvd_add hb.whole (Nat.dvd_of_mod_eq_zero hwhole)
      · rw [Outcome.done_state, hpoints, Array.toList_append, Array.toList_map]
        rfl
      · rw [Outcome.done_state, hcount]
        exact hbefore
    · simp only [appended, if_neg hwhole]
      exact ⟨_, append_of_not_dvd (hsize ▸ hwhole)⟩

end GeometryBuffer

/-- The points of an array that is given. -/
def ArrayInput.points (input : ArrayInput) : Except Fault (Array (Vec3 Float)) := do
  Fault.ofGeometry (GeometryBuffer.pointsOf (← input.read))

namespace GeometryBuffer

variable {b : GeometryBuffer Float}

theorem adds_input (kind : BufferKind) (input : ArrayInput) :
    Adds kind (fun b => .given b input.read b.extend) input.points := by
  intro b _
  unfold ArrayInput.points
  cases input.read with
  | error f => rfl
  | ok a => rfl

theorem adds_extend (kind : BufferKind) (a : NumArray Float) :
    Adds kind (fun b => b.extend a) (ArrayInput.array a).points :=
  adds_input kind (.array a)

theorem adds_addEdge (p q : Value) :
    Adds .edges (fun b => b.addEdge p q) (ArrayInput.value (.list [p, q])).points := by
  intro b hkind
  rw [← adds_input .edges _ b hkind]
  simp only [addEdge, hkind]
  rfl

theorem adds_addPolygon (p q r : Value) :
    Adds .polygons (fun b => b.addPolygon p q r) (ArrayInput.value (.list [p, q, r])).points := by
  intro b hkind
  rw [← adds_input .polygons _ b hkind]
  simp only [addPolygon, hkind]
  rfl

theorem addEdge_of_ne (hkind : b.kind ≠ .edges) {p q : Value} :
    b.addEdge p q = .failed b (.geometry .edgeAmongPolygons) := by
  unfold addEdge
  split
  · contradiction
  · rfl

theorem addPolygon_of_ne (hkind : b.kind ≠ .polygons) {p q r : Value} :
    b.addPolygon p q r = .failed b (.geometry .polygonAmongEdges) := by
  unfold addPolygon
  split
  · contradiction
  · rfl

theorem adds_addVertices (kind : BufferKind) (mesh : Array (Vec3 Float)) :
    Adds kind (fun b => b.addVertices mesh) (.ok mesh) :=
  fun _ _ => rfl

end GeometryBuffer

/-! ### Shapes -/

theorem Built.outcome_result (o : Outcome (GeometryBuffer Float)) (b : GeometryBuffer Float) :
    Built.outcome ⟨some o.state, o.result⟩ b = o := by
  obtain ⟨state, fault?⟩ := o
  cases fault? <;> rfl

namespace ShapeBuilder

open GeometryBuffer

variable {params : Parameters} {b : GeometryBuffer Float}

section Adding

variable {β γ : Type} {kind : BufferKind} {first : Parameters → Except Fault β}
  {second : Parameters → β → Except Fault γ}

theorem prepared_of_target {into : Option (GeometryBuffer Float)}
    {buffer : GeometryBuffer Float} (htarget : target kind params into = .ok buffer) :
    prepared kind first second params into =
      (first params >>= second params).map (Prod.mk buffer) := by
  rw [prepared, htarget]
  cases first params with
  | error f => rfl
  | ok early =>
    show (second params early >>= fun c => .ok (buffer, c)) = (second params early).map _
    cases second params early with
    | error f => rfl
    | ok c => rfl

theorem target_none (hinto : Value.lookup params (.str "into") = none) :
    target kind params none = .ok (empty kind) := by
  simp only [target, Value.field, hinto, Option.getD_none]

theorem prepared_other (first : Parameters → Except Fault β)
    (second : Parameters → β → Except Fault γ) (params : Parameters) (hkind : b.kind ≠ kind) :
    ∃ f, prepared kind first second params (some b) = .error f := by
  have htarget : target kind params (some b) = .error (.geometry (.otherBuffer kind b.kind)) :=
    if_neg hkind
  rw [prepared, htarget]
  cases first params with
  | error f => exact ⟨f, rfl⟩
  | ok early => exact ⟨_, rfl⟩

/-- What a list becomes when a shape is added that may have been built on its own. -/
def addedTo (kind : BufferKind) (ps : List (Vec4 Float)) :
    Except Fault (GeometryBuffer Float) → Option (List (Vec4 Float))
  | .ok made => if made.kind = kind then some (ps ++ made.points.toList) else none
  | .error _ => none

theorem addedTo_empty {add : GeometryBuffer Float → Outcome (GeometryBuffer Float)}
    {x : Except Fault (Array (Vec3 Float))} (hadd : Adds kind add x) (k : BufferKind)
    (ps : List (Vec4 Float)) :
    addedTo k ps (add (empty kind)).result = if kind = k then appended kind x ps else none := by
  have hstart : (empty kind : GeometryBuffer Float).points.toList = [] := by
    simp [empty, withCapacity, points]
  have halone := hadd.answers (b := empty kind) rfl (sound_withCapacity kind defaultCapacity)
  rw [hstart] at halone
  cases x with
  | error f =>
    obtain ⟨g, hg⟩ := halone
    rw [hg]
    exact (ite_self none).symm
  | ok vertices =>
    by_cases hwhole : vertices.size % kind.stride = 0
    · simp only [appended, if_pos hwhole, List.nil_append] at halone ⊢
      obtain ⟨hfault, -, hkind, hpoints, -⟩ := halone
      simp only [Outcome.result, hfault, addedTo, hpoints, hkind]
      rfl
    · simp only [appended, if_neg hwhole] at halone ⊢
      obtain ⟨g, hg⟩ := halone
      rw [hg]
      exact (ite_self none).symm

/-- **A shape that is added to a buffer adds the points that it has when it is built on its own**,
and it is refused when it cannot be built on its own or is of another kind. -/
theorem answers_adding {add : γ → GeometryBuffer Float → Outcome (GeometryBuffer Float)}
    {x : γ → Except Fault (Array (Vec3 Float))} (hadd : ∀ c, Adds kind (add c) (x c))
    (hinto : Value.lookup params (.str "into") = none) (hb : b.Sound) :
    b.Answers ((adding kind first second add params (some b)).outcome b)
      (addedTo b.kind b.points.toList (adding kind first second add params none).result) := by
  unfold adding
  rw [prepared_of_target (target_none hinto)]
  by_cases hkind : b.kind = kind
  · have htarget : target kind params (some b) = .ok b := if_pos hkind
    rw [prepared_of_target htarget]
    cases first params >>= second params with
    | error f => exact ⟨f, rfl⟩
    | ok c =>
      show b.Answers (Built.outcome ⟨some (add c b).state, (add c b).result⟩ b)
        (addedTo b.kind b.points.toList (add c (empty kind)).result)
      rw [addedTo_empty (hadd c), if_pos hkind.symm, Built.outcome_result]
      exact (hadd c).answers hkind hb
  · obtain ⟨f, hf⟩ := prepared_other first second params hkind
    rw [hf]
    cases first params >>= second params with
    | error g => exact ⟨f, rfl⟩
    | ok c =>
      show b.Answers (Built.outcome ⟨some b, .error f⟩ b)
        (addedTo b.kind b.points.toList (add c (empty kind)).result)
      rw [addedTo_empty (hadd c), if_neg (Ne.symm hkind)]
      exact ⟨f, rfl⟩

theorem exists_vertices_adding {add : γ → GeometryBuffer Float → Outcome (GeometryBuffer Float)}
    {x : γ → Except Fault (Array (Vec3 Float))} (hadd : ∀ c, Adds kind (add c) (x c))
    (hinto : Value.lookup params (.str "into") = none) {k : BufferKind} {ps qs : List (Vec4 Float)}
    (h : addedTo k ps (adding kind first second add params none).result = some qs) :
    ∃ vs : List (Vec3 Float), qs = ps ++ vs.map fun v => ⟨v.x, v.y, v.z, 1⟩ := by
  unfold adding at h
  rw [prepared_of_target (target_none hinto)] at h
  cases hread : first params >>= second params with
  | error f =>
    rw [hread] at h
    cases h
  | ok c =>
    rw [hread] at h
    have h : addedTo k ps (add c (empty kind)).result = some qs := h
    rw [addedTo_empty (hadd c)] at h
    split at h
    · exact exists_vertices_of_appended h
    · cases h

end Adding

theorem exists_adding {shape : NamedShape} (h : shape ∈ ShapeCatalog.primitives) (steps : Int) :
    ∃ (β γ : Type) (kind : BufferKind) (first : Parameters → Except Fault β)
      (second : Parameters → β → Except Fault γ)
      (add : γ → GeometryBuffer Float → Outcome (GeometryBuffer Float))
      (x : γ → Except Fault (Array (Vec3 Float))), (∀ c, Adds kind (add c) (x c)) ∧
        shape.build steps = adding kind first second add := by
  simp only [ShapeCatalog.primitives, List.mem_cons, List.not_mem_nil, or_false] at h
  rcases h with rfl | rfl | rfl | rfl
  · exact ⟨_, _, _, _, _, _, _, fun corners => adds_extend .polygons corners, rfl⟩
  · exact ⟨_, _, _, _, _, _, fun ends => (ArrayInput.value (.list [ends.1, ends.2])).points,
      fun ends => adds_addEdge ends.1 ends.2, rfl⟩
  · exact ⟨_, _, _, _, _, _, _, fun mesh => adds_addVertices .polygons mesh, rfl⟩
  · exact ⟨_, _, _, _, _, _, _, fun mesh => adds_addVertices .polygons mesh, rfl⟩

end ShapeBuilder

namespace ShapeCatalog

theorem mem_primitives_of_find {name : Value} {shape : NamedShape}
    (h : standard.find name = .ok shape) : shape ∈ primitives := by
  have hentries : standard.entries.entries = primitives.map fun s => (s.name, s) := rfl
  have hget : standard.get name = .ok shape := by
    cases hget : standard.get name with
    | error f => rw [find, hget] at h; cases h
    | ok s => rw [find, hget] at h; exact congrArg _ (Except.ok.inj h)
  obtain ⟨key, -, hkey⟩ := exists_of_bind_eq_ok hget
  cases hlookup : standard.entries.get? key with
  | none =>
    rw [hlookup] at hkey
    split at hkey
    · contradiction
    all_goals cases hkey
  | some s =>
    rw [hlookup] at hkey
    obtain rfl := Except.ok.inj hkey
    rw [OrderedMap.get?, hentries] at hlookup
    obtain ⟨l₁, l₂, hsplit, -⟩ := List.lookup_eq_some_iff.1 hlookup
    have hmem : (key, s) ∈ primitives.map fun s => (s.name, s) := by rw [hsplit]; simp
    obtain ⟨t, ht, heq⟩ := List.mem_map.1 hmem
    exact (Prod.mk.inj heq).2 ▸ ht

end ShapeCatalog

namespace BufferCall

open GeometryBuffer

/-- What a call makes of the plain list of the points of a buffer; nothing when it is refused. -/
def onList (kind : BufferKind) : BufferCall → List (Vec4 Float) → Option (List (Vec4 Float))
  | extend input, ps => appended kind input.points ps
  | addEdge p q, ps =>
    if kind = .edges then appended .edges (ArrayInput.value (.list [p, q])).points ps else none
  | addPolygon p q r, ps =>
    if kind = .polygons then appended .polygons (ArrayInput.value (.list [p, q, r])).points ps
    else none
  | apply matrix, ps =>
    match matrix.read >>= fun a => Fault.ofGeometry (Matrix4.ofArray a) with
    | .ok m => some (ps.map m.apply)
    | .error _ => none
  | clear, _ => some []
  | build name steps params, ps =>
    if (Value.lookup params (.str "kind")).isSome || (Value.lookup params (.str "into")).isSome
    then none
    else ShapeBuilder.addedTo kind ps
      (ShapeCatalog.standard.build name steps params none).result

variable {b : GeometryBuffer Float}

theorem answers_apply (hb : b.Sound) (matrix : ArrayInput) :
    b.Answers ((apply matrix).perform b) ((apply matrix).onList b.kind b.points.toList) := by
  simp only [perform, onList]
  cases matrix.read with
  | error f => exact ⟨f, rfl⟩
  | ok a =>
    show b.Answers (b.applyArray a) (match Fault.ofGeometry (Matrix4.ofArray a) with
      | .ok m => some (b.points.toList.map m.apply)
      | .error _ => none)
    rw [applyArray]
    cases Fault.ofGeometry (Matrix4.ofArray a) with
    | error f => exact ⟨f, rfl⟩
    | ok m =>
      refine ⟨rfl, ⟨hb.fits.apply m, hb.whole⟩, rfl, ?_, ?_⟩
      · exact (congrArg Array.toList (hb.fits.points_apply m)).trans Array.toList_map
      · rw [Outcome.given, Outcome.done_state, capacity_apply]
        exact grownFor_self ..

/-- A shape is refused whatever the buffer holds, or it is built by adding points. -/
theorem build_cases (name : Value) (steps : Int) (params : Parameters) :
    ((∀ b, ∃ f, (build name steps params).perform b = .failed b f) ∧
      ∀ kind ps, (build name steps params).onList kind ps = none) ∨
    ∃ (β γ : Type) (kind : BufferKind) (first : Parameters → Except Fault β)
      (second : Parameters → β → Except Fault γ)
      (add : γ → GeometryBuffer Float → Outcome (GeometryBuffer Float))
      (x : γ → Except Fault (Array (Vec3 Float))),
      (∀ c, Adds kind (add c) (x c)) ∧ Value.lookup params (.str "into") = none ∧
      (∀ b, (build name steps params).perform b =
        (ShapeBuilder.adding kind first second add params (some b)).outcome b) ∧
      ∀ k ps, (build name steps params).onList k ps =
        ShapeBuilder.addedTo k ps
          (ShapeBuilder.adding kind first second add params none).result := by
  simp only [perform, onList, ShapeCatalog.build, ShapeCatalog.isAmbiguous, Option.isSome_some,
    Option.isSome_none, Bool.true_and, Bool.false_and, Bool.or_false]
  cases hkind : Value.lookup params (.str "kind") with
  | some v => exact .inl ⟨fun b => ⟨_, rfl⟩, fun _ _ => rfl⟩
  | none =>
    cases hinto : Value.lookup params (.str "into") with
    | some v => exact .inl ⟨fun b => ⟨_, rfl⟩, fun _ _ => rfl⟩
    | none =>
      cases hshape : ShapeCatalog.standard.find name with
      | error f => exact .inl ⟨fun b => ⟨f, rfl⟩, fun _ _ => rfl⟩
      | ok shape =>
        obtain ⟨_, _, _, _, _, _, _, hadd, hbuild⟩ :=
          ShapeBuilder.exists_adding (ShapeCatalog.mem_primitives_of_find hshape) steps
        simp only [hbuild]
        exact .inr ⟨_, _, _, _, _, _, _, hadd, trivial, fun _ => rfl, fun _ _ => rfl⟩

/-- What neither transforms nor clears, adds points with the fourth coordinate one. -/
theorem exists_vertices_of_onList {call : BufferCall} {kind : BufferKind}
    {ps qs : List (Vec4 Float)} (h : call.onList kind ps = some qs) (happly : ∀ m, call ≠ .apply m)
    (hclear : call ≠ .clear) :
    ∃ vs : List (Vec3 Float), qs = ps ++ vs.map fun v => ⟨v.x, v.y, v.z, 1⟩ := by
  cases call with
  | extend input => exact exists_vertices_of_appended h
  | addEdge p q | addPolygon p q r =>
    rw [onList] at h
    split at h
    · exact exists_vertices_of_appended h
    · cases h
  | apply m => exact absurd rfl (happly m)
  | clear => exact absurd rfl hclear
  | build name steps params =>
    rcases build_cases name steps params with
      ⟨-, hlist⟩ | ⟨_, _, _, _, _, _, _, hadd, hinto, -, hlist⟩
    · rw [hlist] at h
      cases h
    · rw [hlist] at h
      exact ShapeBuilder.exists_vertices_adding hadd hinto h

/-- **A call does to a buffer what it does to the list of its points.** -/
theorem answers_perform (hb : b.Sound) (call : BufferCall) :
    b.Answers (call.perform b) (call.onList b.kind b.points.toList) := by
  cases call with
  | extend input => exact (adds_input b.kind input).answers rfl hb
  | addEdge p q =>
    by_cases hkind : b.kind = .edges
    · rw [onList, if_pos hkind]
      exact (adds_addEdge p q).answers hkind hb
    · rw [onList, if_neg hkind]
      exact ⟨_, addEdge_of_ne hkind⟩
  | addPolygon p q r =>
    by_cases hkind : b.kind = .polygons
    · rw [onList, if_pos hkind]
      exact (adds_addPolygon p q r).answers hkind hb
    · rw [onList, if_neg hkind]
      exact ⟨_, addPolygon_of_ne hkind⟩
  | apply matrix => exact answers_apply hb matrix
  | clear =>
    exact ⟨rfl, ⟨Nat.zero_le _, Nat.dvd_zero _⟩, rfl, congrArg Array.toList points_clear,
      grownFor_self ..⟩
  | build name steps params =>
    rcases build_cases name steps params with
      ⟨hperform, hlist⟩ | ⟨_, _, _, _, _, _, _, hadd, hinto, hperform, hlist⟩
    · rw [hlist]
      exact hperform b
    · rw [hlist, hperform]
      exact ShapeBuilder.answers_adding hadd hinto hb

/-! ### Runs -/

/-- The buffer holds these points, in the room that was asked for or in that room doubled some
number of times. -/
structure Represents (kind : BufferKind) (requested : Int) (ps : List (Vec4 Float))
    (b : GeometryBuffer Float) : Prop extends b.Sound where
  kind_eq : b.kind = kind
  points : b.points.toList = ps
  room : ∃ k : Nat, (b.capacity : Int) = max requested kind.stride * 2 ^ k

variable {kind : BufferKind} {requested : Int} {ps : List (Vec4 Float)}

theorem represents_withCapacity (kind : BufferKind) (requested : Int) :
    Represents kind requested [] (withCapacity kind requested) where
  toSound := sound_withCapacity kind requested
  kind_eq := rfl
  points := by simp [withCapacity, GeometryBuffer.points]
  room := by
    refine ⟨0, ?_⟩
    simp only [capacity, withCapacity, zeroColumns, Array.size_replicate]
    omega

/-- **What represents a list, represents after a call what the call makes of the list.** -/
theorem Represents.perform (h : Represents kind requested ps b) (call : BufferCall) :
    Represents kind requested ((call.onList kind ps).getD ps) (call.perform b).state := by
  have hanswer := answers_perform h.toSound call
  rw [h.kind_eq, h.points] at hanswer
  cases hlist : call.onList kind ps with
  | none =>
    rw [hlist] at hanswer
    obtain ⟨f, hf⟩ := hanswer
    rw [hf]
    exact h
  | some qs =>
    rw [hlist] at hanswer
    obtain ⟨-, hsound, hkind, hpoints, rounds, -, hrounds⟩ := hanswer
    obtain ⟨k, hk⟩ := h.room
    refine ⟨hsound, hkind.trans h.kind_eq, hpoints, k + rounds, ?_⟩
    rw [hrounds, Int.natCast_mul, hk, Int.natCast_pow, Int.pow_add, Int.mul_assoc]
    rfl

theorem Represents.run (h : Represents kind requested ps b) (calls : List BufferCall) :
    Represents kind requested (calls.foldl (fun ps call => (call.onList kind ps).getD ps) ps)
      (run calls b) := by
  induction calls generalizing ps b with
  | nil => exact h
  | cons call calls ih => exact ih (h.perform call)

theorem perform_flatRows (rows : List (Vec3 Scalar)) (b : GeometryBuffer Float) :
    (extend (.value (.flatRows rows))).perform b =
      (extend (.value (.nestedRows rows))).perform b := by
  have hpoints : (ArrayInput.value (.flatRows rows)).points =
      (ArrayInput.value (.nestedRows rows)).points := pointsOfValue_flatRows rows
  calc (extend (.value (.flatRows rows))).perform b
      = .given b (ArrayInput.value (.flatRows rows)).points b.addVertices :=
        adds_input b.kind _ b rfl
    _ = .given b (ArrayInput.value (.nestedRows rows)).points b.addVertices := by rw [hpoints]
    _ = (extend (.value (.nestedRows rows))).perform b := (adds_input b.kind _ b rfl).symm

theorem onList_nestedRows {rows : List (Vec3 Scalar)} {vs : List (Vec3 Float)}
    (h : List.Forall₂ RowReads rows vs) (kind : BufferKind) (ps : List (Vec4 Float)) :
    (extend (.value (.nestedRows rows))).onList kind ps =
      if rows.length % kind.stride = 0 then some (ps ++ vs.map fun v => ⟨v.x, v.y, v.z, 1⟩)
      else none := by
  have hpoints : (ArrayInput.value (.nestedRows rows)).points = .ok vs.toArray :=
    pointsOfValue_nestedRows h
  rw [onList, hpoints, appended, List.size_toArray, h.length_eq]

/-- **A buffer refines the list of its points.**  After any calls, whether they were refused or not,
its points are those of the list that the accepted calls make; they are whole elements and fit into
the room, which is the room that was asked for, doubled some number of times.  A further call does
what it does to the list, and doubles the room as often as the points need it; or it is refused as
it is for the list, and nothing has changed.  Doubling ends however many points are to come.  Rows
of numbers, in one list or as lists, are points with the fourth coordinate one. -/
theorem run_refines_list (kind : BufferKind) (requested : Int) (calls : List BufferCall) :
    let b := run calls (.withCapacity kind requested)
    let ps := calls.foldl (fun ps call => (call.onList kind ps).getD ps) []
    (b.kind = kind ∧ b.points.toList = ps ∧ b.count = ps.length ∧
      kind.stride ∣ b.count ∧ b.count ≤ b.capacity ∧
      ∃ k : Nat, (b.capacity : Int) = max requested kind.stride * 2 ^ k) ∧
    (∀ (call : BufferCall) (qs : List (Vec4 Float)), call.onList kind ps = some qs →
      ∃ b', call.perform b = .done b' ∧ b'.points.toList = qs ∧ b'.count ≤ b'.capacity ∧
      b.capacity ≤ b'.capacity ∧ (∃ rounds, (∀ i < rounds, b.capacity * 2 ^ i < b'.count) ∧
        b'.capacity = b.capacity * 2 ^ rounds) ∧
      ((∀ m, call ≠ .apply m) → call ≠ .clear →
        ∃ vs : List (Vec3 Float), qs = ps ++ vs.map fun v => ⟨v.x, v.y, v.z, 1⟩)) ∧
    (∀ call : BufferCall, call.onList kind ps = none → ∃ f, call.perform b = .failed b f) ∧
    (∀ need, ∃ rounds, (∀ i < rounds, b.capacity * 2 ^ i < need) ∧
      need ≤ b.capacity * 2 ^ rounds ∧
      grownTo need b.capacity b.capacity_pos = b.capacity * 2 ^ rounds) ∧
    (∀ rows, (extend (.value (.flatRows rows))).perform b =
      (extend (.value (.nestedRows rows))).perform b) ∧
    ∀ rows vs, List.Forall₂ RowReads rows vs →
      (extend (.value (.nestedRows rows))).onList kind ps =
        if rows.length % kind.stride = 0 then some (ps ++ vs.map fun v => ⟨v.x, v.y, v.z, 1⟩)
        else none := by
  intro b ps
  have h : Represents kind requested ps b := (represents_withCapacity kind requested).run calls
  have hanswer (call : BufferCall) : b.Answers (call.perform b) (call.onList kind ps) := by
    have := answers_perform h.toSound call
    rwa [h.kind_eq, h.points] at this
  have hcount : b.count = ps.length := by rw [← h.points, Array.length_toList, h.fits.size_points]
  refine ⟨⟨h.kind_eq, h.points, hcount, h.kind_eq ▸ h.whole, h.fits, h.room⟩, ?_, ?_, ?_,
    fun rows => perform_flatRows rows b, fun rows vs hrows => onList_nestedRows hrows kind ps⟩
  · intro call qs hlist
    have := hanswer call
    rw [hlist] at this
    obtain ⟨hfault, hsound, -, hpoints, rounds, hbefore, hrounds⟩ := this
    refine ⟨_, Outcome.eq_done hfault, hpoints, hsound.fits, ?_, ⟨rounds, hbefore, hrounds⟩,
      exists_vertices_of_onList hlist⟩
    rw [hrounds]
    exact Nat.le_mul_of_pos_right _ (Nat.two_pow_pos rounds)
  · intro call hlist
    have := hanswer call
    rwa [hlist] at this
  · exact fun need => exists_rounds need b.capacity b.capacity_pos

/-- A buffer of edges with room for two points, which has refused a polygon and half an edge before
it takes two edges more. -/
theorem run_refines_list_edges :
    let p : Vec3 Scalar := ⟨.float 0, .float 0, .float 0⟩
    let q : Vec3 Scalar := ⟨.float 3, .float 4, .float 5⟩
    let calls : List BufferCall := [.extend (.value (.nestedRows [p, q])),
      .addPolygon .null .null .null, .extend (.value (.nestedRows [p]))]
    let b := run calls (.withCapacity .edges 1)
    let more : BufferCall := .extend (.value (.nestedRows [q, p, p, q]))
    List.Forall₂ RowReads [q, p, p, q] [⟨3, 4, 5⟩, ⟨0, 0, 0⟩, ⟨0, 0, 0⟩, ⟨3, 4, 5⟩] ∧
      b.points.toList = [⟨0, 0, 0, 1⟩, ⟨3, 4, 5, 1⟩] ∧
      (∃ k : Nat, (b.capacity : Int) = 2 * 2 ^ k) ∧
      (∃ b', more.perform b = .done b' ∧ b'.points.toList = [⟨0, 0, 0, 1⟩, ⟨3, 4, 5, 1⟩,
        ⟨3, 4, 5, 1⟩, ⟨0, 0, 0, 1⟩, ⟨0, 0, 0, 1⟩, ⟨3, 4, 5, 1⟩] ∧ b'.count ≤ b'.capacity) ∧
      ∃ f, (addPolygon .null .null .null).perform b = .failed b f := by
  intro p q calls b more
  have hp : RowReads p ⟨0, 0, 0⟩ := ⟨rfl, rfl, rfl⟩
  have hq : RowReads q ⟨3, 4, 5⟩ := ⟨rfl, rfl, rfl⟩
  have hmore : List.Forall₂ RowReads [q, p, p, q] [⟨3, 4, 5⟩, ⟨0, 0, 0⟩, ⟨0, 0, 0⟩, ⟨3, 4, 5⟩] :=
    .cons hq (.cons hp (.cons hp (.cons hq .nil)))
  obtain ⟨⟨-, hpoints, -, -, -, hroom⟩, hdone, hrefused, -, -, hrows⟩ :=
    run_refines_list .edges 1 calls
  have hpolygon (ps : List (Vec4 Float)) :
      (addPolygon .null .null .null).onList .edges ps = none := rfl
  have hps : calls.foldl (fun ps call => (call.onList .edges ps).getD ps) [] =
      [⟨0, 0, 0, 1⟩, ⟨3, 4, 5, 1⟩] := by
    simp [calls, hpolygon, onList_nestedRows (.cons hp .nil),
      onList_nestedRows (.cons hp (.cons hq .nil)), BufferKind.stride]
  rw [hps] at hpoints hdone hrefused hrows
  have hwhole : [q, p, p, q].length % BufferKind.edges.stride = 0 := by simp [BufferKind.stride]
  obtain ⟨b', hb', hpoints', hfits, -⟩ := hdone more _ ((hrows _ _ hmore).trans (if_pos hwhole))
  exact ⟨hmore, hpoints, hroom, ⟨b', hb', hpoints', hfits⟩, hrefused _ (hpolygon _)⟩

end BufferCall

end Flipbook
