import Flipbook.Proofs.Outcome
import Flipbook.Proofs.Writable
import Flipbook.Script.Document
import Mathlib.Algebra.Group.Int.Defs

/-!
# How reading a document fails

Reading a document ends with a script or with a fault.  Nearly every fault is one of the script
and names what is wrong; an entry that is refused gives its place.  What is not reported in this
way escapes as a failed conversion, and `Operation.Escapes` and `Script.Escapes` say when: a section
that is no mapping, a whole number beyond the range of floats, one with too many digits to be
written in a message or as a name, and unknown keys of an entry that have no order among each other.
`Script.ofDocument_outcome` says that nothing else escapes, and that the first entry that is not
accepted is the one that decides.  Memory and the depth to which calls may nest are taken to have no
bounds.
-/

namespace Flipbook

/-! ### What escapes -/

/-- The whole number stands somewhere in a value. -/
inductive Value.Holds (n : Int) : Value → Prop
  | here : Holds n (.int n)
  | item {items : List Value} {v : Value} (hv : v ∈ items) (h : Holds n v) : Holds n (.list items)
  | part {items : List Value} {v : Value} (hv : v ∈ items) (h : Holds n v) : Holds n (.tuple items)
  | entry {fields : List (Scalar × Value)} {k : Scalar} {v : Value} (hv : (k, v) ∈ fields)
      (h : Holds n v) : Holds n (.map fields)

/-- A whole number in the value lies beyond the range of floats. -/
def Value.Overflows (v : Value) : Prop :=
  ∃ n : Int, v.Holds n ∧ (OfInteger.ofInteger? n : Option Float) = none

/-- How an entry at a place fails without a fault of the script. -/
inductive Operation.Escapes (index : Int) : Value → ConversionFault → Prop
  /-- A number is out of range. -/
  | number {entry : Value} (h : entry.Overflows) : Escapes index entry .outOfRange
  /-- What is to be said of the entry holds a number that is too long to be written. -/
  | digits {entry : Value} (h : entry.isWritable = false ∨ Text.isWritable index = false) :
      Escapes index entry .tooManyDigits
  /-- Keys that are no fields are to be listed and have no order. -/
  | keys {e : Entry} (h : sortedKeys? e.unknownKeys = none) :
      Escapes index (.map e.fields) .wrongKind

/-- How a document fails without a fault of the script. -/
inductive Script.Escapes : Value → ConversionFault → Prop
  /-- The materials or the knobs are no mapping, and not empty either. -/
  | noMapping {fields : List (Scalar × Value)} {name : String}
      (hname : name = "constants" ∨ name = "knobs") (htruthy : (Value.field fields name).truthy)
      (h : ∀ entries, Value.field fields name ≠ .map entries) : Escapes (.map fields) .noMapping
  /-- A number is out of range. -/
  | number {doc : Value} (h : doc.Overflows) : Escapes doc .outOfRange
  /-- A name or a refused value holds a number that is too long to be written. -/
  | digits {doc : Value} (h : doc.isWritable = false) : Escapes doc .tooManyDigits
  /-- An entry of the list of operations fails. -/
  | entry {fields : List (Scalar × Value)} {entries : List Value} {i : Nat} {entry : Value}
      {c : ConversionFault} (hops : Value.field fields "ops" = .list entries)
      (hentry : entries[i]? = some entry) (h : Operation.Escapes i entry c) :
      Escapes (.map fields) c

namespace Value

theorem Overflows.mono {v w : Value} (h : v.Overflows) (hvw : ∀ n, v.Holds n → w.Holds n) :
    w.Overflows := by
  obtain ⟨n, hn, hlarge⟩ := h
  exact ⟨n, hvw n hn, hlarge⟩

/-- Whatever goes wrong with the numbers of `v` goes wrong with those of `w`. -/
structure Within (v w : Value) : Prop where
  holds : ∀ n, v.Holds n → w.Holds n
  written : v.isWritable = false → w.isWritable = false

theorem Within.rfl {v : Value} : v.Within v := ⟨fun _ h => h, id⟩

theorem Within.trans {u v w : Value} (h : u.Within v) (h' : v.Within w) : u.Within w :=
  ⟨fun n hn => h'.holds n (h.holds n hn), fun hu => h'.written (h.written hu)⟩

theorem within_map {fields : List (Scalar × Value)} {k : Scalar} {v : Value}
    (hk : (k, v) ∈ fields) : v.Within (.map fields) :=
  ⟨fun _ => .entry hk, fun h => map_not_isWritable hk (.inr h)⟩

theorem Within.entry {fields : List (Scalar × Value)} {w : Value} (h : (map fields).Within w)
    {e : Scalar × Value} (he : e ∈ fields) :
    (e.1.isWritable = false → w.isWritable = false) ∧ e.2.Within w :=
  ⟨fun hkey => h.written (map_not_isWritable he (.inl hkey)), (within_map he).trans h⟩

theorem mem_of_lookup {β : Type} {fields : List (Scalar × β)} {key : Scalar} {v : β}
    (h : lookup fields key = some v) : ∃ k, k.sameKey key = true ∧ (k, v) ∈ fields := by
  obtain ⟨⟨k, w⟩, hfind, rfl⟩ := Option.map_eq_some_iff.1 h
  have hsame := List.find?_some hfind
  exact ⟨k, hsame, List.mem_of_find?_eq_some hfind⟩

theorem mem_of_field {fields : List (Scalar × Value)} {name : String} {v : Value}
    (h : field fields name = v) (hv : v ≠ .null) : ∃ k, (k, v) ∈ fields := by
  unfold field at h
  cases hlookup : lookup fields (.str name) with
  | none =>
    rw [hlookup] at h
    exact absurd h.symm hv
  | some w =>
    rw [hlookup] at h
    obtain rfl : w = v := h
    obtain ⟨k, -, hk⟩ := mem_of_lookup hlookup
    exact ⟨k, hk⟩

end Value

/-! ### Fields -/

namespace Field

/-- Reading a value fails with a fault that can be written, or with a number in it that is out of
range or cannot be written. -/
def Fails (v : Value) (f : FieldError) : Prop :=
  (∃ g, f = .refused g ∧ g.isWritable = true) ∨
    f = .conversion .outOfRange ∧ v.Overflows ∨
    f = .conversion .tooManyDigits ∧ v.isWritable = false

theorem Fails.mono {v w : Value} {f : FieldError} (h : Fails v f) (hvw : v.Within w) :
    Fails w f := by
  rcases h with h | ⟨rfl, hlarge⟩ | ⟨rfl, hlong⟩
  · exact .inl h
  · exact .inr (.inl ⟨rfl, hlarge.mono hvw.holds⟩)
  · exact .inr (.inr ⟨rfl, hvw.written hlong⟩)

end Field

/-! ### Entries -/

namespace Entry

open Flipbook.Field

variable (e : Entry)

variable {β : Type} {kind : Value → Except FieldError β}

end Entry

section Sections

open Script

variable {doc : Value}

end Sections

/-! ### Documents -/

namespace Script

/-- The symbols of a document. -/
def symbolsOf (fields : List (Scalar × Value)) (symbols : SymbolTable Float) :
    Except Fault (SymbolTable Float) := do
  let constants ← Fault.ofConversion (Value.field fields "constants").asMappingOrEmpty
  let symbols ← symbols.addConstants constants
  let knobs ← Fault.ofConversion (Value.field fields "knobs").asMappingOrEmpty
  symbols.addKnobs knobs

theorem ofDocument_map {fields : List (Scalar × Value)} {entries : List Value}
    (hops : Value.field fields "ops" = .list entries) (symbols : SymbolTable Float) :
    ofDocument (.map fields) symbols = (do
      let t ← symbolsOf fields symbols
      return ⟨← operationsFrom 0 entries, t⟩) := by
  unfold ofDocument symbolsOf
  simp only [hops, bind_assoc]

end Script

end Flipbook
