import Flipbook.Proofs.OrderedMap
import Flipbook.Proofs.Outcome
import Flipbook.Registry

/-!
# What a registry keeps

Calls of a registry are carried out one after the other, and one that is refused leaves the registry
as it was (`RegistryCall.run`).  Names are told apart by their normal forms only.  A registration
that succeeds either binds a key that is free or repeats what is there, so a key that has an object
keeps it (`RegistryCall.get?_run`), and the registry is what its successful registrations write,
one after the other (`RegistryCall.run_eq`): every key once, in the order in which it was registered
first.
-/

namespace Flipbook

/-! ### Keys of names -/

namespace Registry

variable {β : Type} {r r' : Registry β} {name : Value} {own : String} {key : String} {object : β}

theorem key?_str (s : String) : key? (.str s) =
    if normalize s = "" then .error .emptyName else .ok (normalize s) := rfl

theorem key?_eq_ok_iff :
    key? name = .ok key ↔ ∃ s, name = .str s ∧ normalize s = key ∧ key ≠ "" := by
  constructor
  · intro h
    unfold key? at h
    split at h
    · rename_i s
      dsimp only at h
      split at h
      · cases h
      · rename_i hne
        cases h
        exact ⟨s, rfl, rfl, hne⟩
    · cases h
  · rintro ⟨s, rfl, rfl, hne⟩
    rw [key?_str, if_neg hne]

/-- What is no name is refused for one of two reasons. -/
theorem fault_key? {f : RegistryFault} (h : key? name = .error f) :
    f = .notText ∨ f = .emptyName := by
  unfold key? at h
  split at h
  · dsimp only at h
    split at h
    · exact .inr (Except.error.inj h).symm
    · cases h
  · exact .inl (Except.error.inj h).symm

theorem key?_str_of_normalize {a b : String} (h : normalize a = normalize b) :
    key? (.str a) = key? (.str b) := by
  rw [key?_str, key?_str, h]

theorem get_eq_ok_iff :
    r.get name = .ok object ↔ ∃ key, key? name = .ok key ∧ r.entries.get? key = some object := by
  unfold get
  cases hkey : key? name with
  | error f => exact iff_of_false (by rintro ⟨⟩) (by rintro ⟨_, ⟨⟩, -⟩)
  | ok key =>
    obtain ⟨s, rfl, -⟩ := key?_eq_ok_iff.1 hkey
    simp only [bind, Except.bind, Except.ok.injEq, exists_eq_left']
    cases r.entries.get? key <;> simp

theorem get_eq_unknown_iff {s : String} : r.get name = .error (.unknown s) ↔
    name = .str s ∧ ∃ key, key? name = .ok key ∧ r.entries.get? key = none := by
  unfold get
  cases hkey : key? name with
  | error f =>
    refine iff_of_false (fun h => ?_) (by rintro ⟨-, _, ⟨⟩, -⟩)
    obtain rfl : f = .unknown s := Except.error.inj h
    rcases fault_key? hkey with hf | hf <;> cases hf
  | ok key =>
    obtain ⟨s', rfl, -⟩ := key?_eq_ok_iff.1 hkey
    simp only [bind, Except.bind, Except.ok.injEq, exists_eq_left']
    cases r.entries.get? key <;> simp

theorem isRegistered_eq_ok_iff {known : Bool} : r.isRegistered name = .ok known ↔
    ∃ key, key? name = .ok key ∧ r.entries.contains key = known := by
  unfold isRegistered
  cases key? name with
  | error f => exact iff_of_false (by rintro ⟨⟩) (by rintro ⟨_, ⟨⟩, -⟩)
  | ok key => simp only [bind, Except.bind, pure, Except.pure, Except.ok.injEq, exists_eq_left']

theorem get_congr (h : ∀ key, key? name = .ok key → r.entries.get? key = r'.entries.get? key) :
    r.get name = r'.get name := by
  unfold get
  cases hkey : key? name with
  | error f => rfl
  | ok key => simp only [bind, Except.bind, h key hkey]

theorem isRegistered_iff_get :
    r.isRegistered name = .ok true ↔ ∃ object, r.get name = .ok object := by
  simp only [isRegistered_eq_ok_iff, get_eq_ok_iff, OrderedMap.contains_iff]
  constructor
  · rintro ⟨key, hkey, object, hentry⟩
    exact ⟨object, key, hkey, hentry⟩
  · rintro ⟨object, key, hkey, hentry⟩
    exact ⟨key, hkey, object, hentry⟩

theorem isRegistered_false_iff_get : r.isRegistered name = .ok false ↔
    ∃ s, name = .str s ∧ r.get name = .error (.unknown s) := by
  simp only [isRegistered_eq_ok_iff, get_eq_unknown_iff, OrderedMap.contains_eq_false_iff]
  constructor
  · rintro ⟨key, hkey, hentry⟩
    obtain ⟨s, hname, -⟩ := key?_eq_ok_iff.1 hkey
    exact ⟨s, hname, hname, key, hkey, hentry⟩
  · rintro ⟨s, -, -, hentry⟩
    exact hentry

theorem get_eq_error_of_isRegistered {f : RegistryFault} (h : r.isRegistered name = .error f) :
    r.get name = .error f := by
  unfold isRegistered at h
  unfold get
  cases hkey : key? name with
  | error g =>
    rw [hkey] at h
    exact congrArg _ (Except.error.inj h)
  | ok key =>
    rw [hkey] at h
    cases h

/-! ### Registering -/

section Register

variable [BEq β]

theorem register_of_free (hkey : keyFor name own = .ok key) (hfree : r.entries.get? key = none) :
    r.register name own object = .ok ⟨r.entries.insert key object⟩ := by
  simp only [register, hkey, hfree, bind, Except.bind]

variable [LawfulBEq β]

theorem register_of_same (hkey : keyFor name own = .ok key)
    (hsame : r.entries.get? key = some object) : r.register name own object = .ok r := by
  simp only [register, hkey, hsame, bind, Except.bind, beq_self_eq_true, ↓reduceIte,
    OrderedMap.insert_of_get? hsame]

theorem register_of_taken {other : β} (hkey : keyFor name own = .ok key)
    (htaken : r.entries.get? key = some other) (hne : other ≠ object) :
    r.register name own object = .error (.taken key) := by
  simp only [register, hkey, htaken, bind, Except.bind, beq_false_of_ne hne, Bool.false_eq_true,
    ↓reduceIte]

/-- What a registration does that succeeds: it writes its object to a key that is free or has that
object already. -/
theorem of_register (h : r.register name own object = .ok r') : ∃ key, keyFor name own = .ok key ∧
    r' = ⟨r.entries.insert key object⟩ ∧
    ∀ other, r.entries.get? key = some other → other = object := by
  cases hkey : keyFor name own with
  | error f =>
    rw [register, hkey] at h
    cases h
  | ok key =>
    cases hentry : r.entries.get? key with
    | none =>
      rw [register_of_free hkey hentry] at h
      exact ⟨key, rfl, (Except.ok.inj h).symm, by simp [hentry]⟩
    | some other =>
      by_cases hsame : other = object
      · subst hsame
        rw [register_of_same hkey hentry] at h
        refine ⟨key, rfl, ?_, by simp [hentry]⟩
        rw [OrderedMap.insert_of_get? hentry]
        exact (Except.ok.inj h).symm
      · rw [register_of_taken hkey hentry hsame] at h
        cases h

end Register

/-- The name under which an object is registered is a spelling of another one: the name that is
given or, where none is given, its own. -/
inductive Spells (bound : String) : Value → String → Prop
  | given {name own : String} (hname : name ≠ "") (h : normalize name = normalize bound) :
      Spells bound (.str name) own
  | own {name : Value} {own : String} (hname : name.truthy = false)
      (h : normalize own = normalize bound) : Spells bound name own

theorem Spells.keyFor_eq {bound : String} (h : Spells bound name own) :
    keyFor name own = key? (.str bound) := by
  cases h with
  | given hname h =>
    have htruthy : (Value.str _).truthy = true := bne_iff_ne.2 hname
    rw [keyFor, if_pos htruthy]
    exact key?_str_of_normalize h
  | own hname h =>
    rw [keyFor, if_neg (by simp [hname])]
    exact key?_str_of_normalize h

/-- The entry of a name stands in place `i` and holds an object. -/
def EntryAt (r : Registry β) (name : String) (i : Nat) (object : β) : Prop :=
  normalize name ≠ "" ∧ r.entries.entries[i]? = some (normalize name, object)

theorem get_eq_ok_iff_entryAt (h : r.names.Nodup) {name : String} :
    r.get (.str name) = .ok object ↔ ∃ i, r.EntryAt name i object := by
  simp only [get_eq_ok_iff, EntryAt, exists_and_left, ← List.mem_iff_getElem?,
    ← OrderedMap.get?_eq_some_iff h]
  constructor
  · rintro ⟨key, hkey, hentry⟩
    obtain ⟨_, ⟨⟩, rfl, hne⟩ := key?_eq_ok_iff.1 hkey
    exact ⟨hne, hentry⟩
  · rintro ⟨hne, hentry⟩
    exact ⟨_, key?_eq_ok_iff.2 ⟨name, rfl, rfl, hne⟩, hentry⟩

theorem entryAt_eq_iff (h : r.names.Nodup) {a b : String} {i j : Nat} {x y : β}
    (ha : r.EntryAt a i x) (hb : r.EntryAt b j y) : i = j ↔ normalize a = normalize b := by
  have hkey {name : String} {i : Nat} {x : β} (hname : r.EntryAt name i x) :
      r.names[i]? = some (normalize name) := by
    rw [names, OrderedMap.keys, List.getElem?_map, hname.2]
    rfl
  have hi : i < r.names.length := (List.getElem?_eq_some_iff.1 (hkey ha)).1
  constructor
  · rintro rfl
    exact Option.some.inj ((hkey ha).symm.trans (hkey hb))
  · intro heq
    refine (List.getElem?_inj hi h).1 ?_
    rw [hkey ha, hkey hb, heq]

end Registry

/-! ### One call after the other -/

/-- A call of a registry. -/
inductive RegistryCall (β : Type)
  /-- Registers an object under a name or, where none is given, under the object's own. -/
  | register (name : Value) (ownName : String) (object : β)
  /-- Asks for the object of a name. -/
  | get (name : Value)
  /-- Asks whether a name has an object. -/
  | isRegistered (name : Value)
  /-- Asks for all keys. -/
  | names

namespace RegistryCall

open Registry

variable {β : Type} [BEq β]

/-- The registry after a call.  Only a registration that succeeds changes it. -/
def after (r : Registry β) : RegistryCall β → Registry β
  | register name ownName object => match r.register name ownName object with
    | .ok r' => r'
    | .error _ => r
  | get _ | isRegistered _ | names => r

/-- The registry after calls one after the other, whether they are refused or not. -/
def run (calls : List (RegistryCall β)) (r : Registry β) : Registry β := calls.foldl after r

/-- The key that a call registers an object under, with the object, if it succeeds. -/
def binding? (r : Registry β) : RegistryCall β → Option (String × β)
  | register name ownName object => match r.register name ownName object with
    | .ok _ => (keyFor name ownName).toOption.map fun key => (key, object)
    | .error _ => none
  | get _ | isRegistered _ | names => none

/-- The registrations that succeed, one after the other. -/
def bindings : List (RegistryCall β) → Registry β → List (String × β)
  | [], _ => []
  | call :: calls, r => (call.binding? r).toList ++ bindings calls (call.after r)

variable [LawfulBEq β] {r : Registry β}

/-- What a call does: nothing, or it writes an object to a key that is free or has it already. -/
theorem after_cases (r : Registry β) (call : RegistryCall β) :
    (call.binding? r = none ∧ call.after r = r) ∨
    ∃ name ownName key object, keyFor name ownName = .ok key ∧
      call.binding? r = some (key, object) ∧ call.after r = ⟨r.entries.insert key object⟩ ∧
      ∀ other, r.entries.get? key = some other → other = object := by
  cases call with
  | register name ownName object =>
    cases h : r.register name ownName object with
    | error f => exact .inl ⟨by rw [binding?, h], by rw [after, h]⟩
    | ok r' =>
      obtain ⟨key, hkey, rfl, hentry⟩ := of_register h
      refine .inr ⟨name, ownName, key, object, hkey, ?_, by rw [after, h], hentry⟩
      rw [binding?, h, hkey]
      rfl
  | get _ | isRegistered _ | names => exact .inl ⟨rfl, rfl⟩

omit [LawfulBEq β] in
theorem run_cons (call : RegistryCall β) (calls : List (RegistryCall β)) (r : Registry β) :
    run (call :: calls) r = run calls (call.after r) := rfl

/-- **A key that has an object keeps it.** -/
theorem get?_run (calls : List (RegistryCall β)) {key : String} {object : β}
    (h : r.entries.get? key = some object) : (run calls r).entries.get? key = some object := by
  induction calls generalizing r with
  | nil => exact h
  | cons call calls ih =>
    refine ih ?_
    obtain ⟨-, hafter⟩ | ⟨_, _, key', object', -, -, hafter, hentry⟩ := call.after_cases r
    · rwa [hafter]
    · rw [hafter, OrderedMap.get?_insert]
      split
      · rename_i heq
        subst heq
        rw [hentry object h]
      · exact h

/-- **A registry is what its registrations write** that succeed. -/
theorem run_eq (calls : List (RegistryCall β)) (r : Registry β) :
    run calls r = ⟨r.entries.insertAll (bindings calls r)⟩ := by
  induction calls generalizing r with
  | nil => rfl
  | cons call calls ih =>
    rw [run_cons, ih, bindings]
    obtain ⟨hnone, hafter⟩ | ⟨_, _, _, _, -, hsome, hafter, -⟩ := call.after_cases r
    · rw [hnone, hafter]
      rfl
    · rw [hsome, hafter]
      rfl

theorem names_run (calls : List (RegistryCall β)) :
    (run calls .empty).names = ((bindings calls .empty).map (·.1)).eraseDups := by
  rw [run_eq]
  exact OrderedMap.keys_ofList _

theorem normal_of_mem_bindings {calls : List (RegistryCall β)} {e : String × β}
    (h : e ∈ bindings calls r) : ∃ name, normalize name = e.1 ∧ e.1 ≠ "" := by
  induction calls generalizing r with
  | nil => cases h
  | cons call calls ih =>
    rcases List.mem_append.1 h with h | h
    · obtain ⟨hnone, -⟩ | ⟨name, ownName, key, object, hkey, hsome, -⟩ := call.after_cases r
      · rw [hnone] at h
        cases h
      · rw [hsome, Option.toList_some, List.mem_singleton] at h
        subst h
        obtain ⟨s, -, hnormal, hne⟩ := key?_eq_ok_iff.1 hkey
        exact ⟨s, hnormal, hne⟩
    · exact ih h

/-- **A registry keeps what it has been given.**  After any calls, two names have one entry exactly
if they have one normal form; what a name has it keeps, whatever is called later; another object is
refused under every spelling of a name that has one, and the same object may be registered again and
changes nothing.  Whether a name has an object is told alike by both questions, for every spelling
of it; and the keys are the normal forms of the names that have an object, each once, in the order
in which they were registered first. -/
theorem entries_permanent (calls : List (RegistryCall β)) :
    let r := run calls .empty
    (∀ name object, r.get (.str name) = .ok object ↔ ∃ i, r.EntryAt name i object) ∧
    (∀ a b i j x y, r.EntryAt a i x → r.EntryAt b j y → (i = j ↔ normalize a = normalize b)) ∧
    (∀ a b own object r', normalize a ≠ normalize b → a ≠ "" →
      r.register (.str a) own object = .ok r' → r'.get (.str b) = r.get (.str b)) ∧
    (∀ name object, r.get name = .ok object → ∀ later, (run later r).get name = .ok object) ∧
    (∀ bound object, r.get (.str bound) = .ok object → ∀ name own, Spells bound name own →
      (∀ other, other ≠ object →
        r.register name own other = .error (.taken (normalize bound)) ∧
          (register name own other).after r = r) ∧
      r.register name own object = .ok r) ∧
    (∀ name, (r.isRegistered name = .ok true ↔ ∃ object, r.get name = .ok object) ∧
      (r.isRegistered name = .ok false ↔ ∃ s, name = .str s ∧ r.get name = .error (.unknown s)) ∧
      ∀ f, r.isRegistered name = .error f → r.get name = .error f) ∧
    (∀ a b, normalize a = normalize b → r.isRegistered (.str a) = r.isRegistered (.str b) ∧
      ∀ object, r.get (.str a) = .ok object ↔ r.get (.str b) = .ok object) ∧
    r.names = ((bindings calls .empty).map (·.1)).eraseDups ∧ r.names.Nodup ∧
    ∀ key, key ∈ r.names ↔
      ∃ name, normalize name = key ∧ r.isRegistered (.str name) = .ok true := by
  intro r
  have hnames : r.names = ((bindings calls .empty).map (·.1)).eraseDups := names_run calls
  have hnodup : r.names.Nodup := hnames ▸ nodup_eraseDups _
  refine ⟨fun _ _ => get_eq_ok_iff_entryAt hnodup, fun _ _ _ _ _ _ => entryAt_eq_iff hnodup,
    ?_, ?_, ?_, fun name => ⟨isRegistered_iff_get, isRegistered_false_iff_get,
    fun _ => get_eq_error_of_isRegistered⟩, ?_, hnames, hnodup, ?_⟩
  · intro a b own object r' hne ha hregister
    obtain ⟨key, hkey, rfl, -⟩ := of_register hregister
    rw [(Spells.given ha rfl : Spells a (.str a) own).keyFor_eq] at hkey
    obtain ⟨_, ⟨⟩, rfl, -⟩ := key?_eq_ok_iff.1 hkey
    refine get_congr fun key hkey => ?_
    obtain ⟨_, ⟨⟩, rfl, -⟩ := key?_eq_ok_iff.1 hkey
    rw [OrderedMap.get?_insert, if_neg (Ne.symm hne)]
  · intro name object hobject later
    obtain ⟨key, hkey, hentry⟩ := get_eq_ok_iff.1 hobject
    exact get_eq_ok_iff.2 ⟨key, hkey, get?_run later hentry⟩
  · intro bound object hbound name own hspells
    obtain ⟨key, hkey, hentry⟩ := get_eq_ok_iff.1 hbound
    obtain ⟨_, ⟨⟩, rfl, -⟩ := key?_eq_ok_iff.1 hkey
    have hfor := hspells.keyFor_eq.trans hkey
    refine ⟨fun other hother => ?_, register_of_same hfor hentry⟩
    have hrefused := register_of_taken hfor hentry (Ne.symm hother)
    exact ⟨hrefused, by rw [after, hrefused]⟩
  · intro a b hnormal
    have hkey := key?_str_of_normalize hnormal
    refine ⟨by rw [Registry.isRegistered, Registry.isRegistered, hkey], fun object => ?_⟩
    rw [get_eq_ok_iff, get_eq_ok_iff, hkey]
  · intro key
    constructor
    · intro hmem
      have hcontains := OrderedMap.mem_keys_iff.1 hmem
      rw [hnames, List.mem_eraseDups] at hmem
      obtain ⟨e, he, rfl⟩ := List.mem_map.1 hmem
      obtain ⟨name, hnormal, hne⟩ := normal_of_mem_bindings he
      exact ⟨name, hnormal, isRegistered_eq_ok_iff.2
        ⟨e.1, key?_eq_ok_iff.2 ⟨name, rfl, hnormal, hne⟩, hcontains⟩⟩
    · rintro ⟨name, rfl, hregistered⟩
      obtain ⟨key, hkey, hcontains⟩ := isRegistered_eq_ok_iff.1 hregistered
      obtain ⟨_, ⟨⟩, rfl, -⟩ := key?_eq_ok_iff.1 hkey
      exact OrderedMap.mem_keys_iff.2 hcontains

/-- One object under a name, and another one under its own; under a second spelling of the first
name a third object is refused, and the first one may be registered again. -/
theorem entries_permanent_spellings :
    let calls : List (RegistryCall Nat) := [.register (.str " A") "make" 1,
      .register (.str "a") "other" 2, .get (.str "-"), .register .null "-" 3, .names]
    let r := run calls .empty
    r.names = ["a", "_"] ∧ r.get (.str "a") = .ok 1 ∧
      (∀ later, (run later r).get (.str "a") = .ok 1) ∧
      Spells "a" (.str "") " A" ∧
      r.register (.str "") " A" 2 = .error (.taken (normalize "a")) ∧
      r.register (.str "") " A" 1 = .ok r ∧
      ∃ i j, i ≠ j ∧ r.EntryAt "a" i 1 ∧ r.EntryAt "-" j 3 := by
  intro calls r
  have hcapital : normalize " A" = "a" := by decide +kernel
  have hsmall : normalize "a" = "a" := by decide +kernel
  have hhyphen : normalize "-" = "_" := by decide +kernel
  have hr : r.entries.entries = [("a", 1), ("_", 3)] := by
    simp [r, calls, run, after, Registry.register, keyFor, Value.truthy, key?_str, hcapital, hsmall,
      hhyphen, bind, Except.bind, Registry.empty, OrderedMap.empty, OrderedMap.get?,
      OrderedMap.insert, OrderedMap.put, List.lookup_cons]
  obtain ⟨hentry, -, -, hkeeps, hbound, -⟩ := entries_permanent calls
  have hspells : Spells "a" (.str "") " A" := .own rfl (hcapital.trans hsmall.symm)
  have hfirst : r.EntryAt "a" 0 1 := ⟨by rw [hsmall]; decide, by rw [hr, hsmall]; rfl⟩
  have hsecond : r.EntryAt "-" 1 3 := ⟨by rw [hhyphen]; decide, by rw [hr, hhyphen]; rfl⟩
  have hget : r.get (.str "a") = .ok 1 := (hentry "a" 1).2 ⟨0, hfirst⟩
  have hown := hbound "a" 1 hget (.str "") " A" hspells
  exact ⟨congrArg (List.map Prod.fst) hr, hget, hkeeps _ _ hget, hspells,
    (hown.1 2 (by decide)).1, hown.2, 0, 1, by decide, hfirst, hsecond⟩

end RegistryCall

end Flipbook
