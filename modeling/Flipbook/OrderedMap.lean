/-!
# Maps that keep the order of insertion

An `OrderedMap` lists its entries in the order in which their keys came in.  Writing to a key that
is there already changes its value and not its place.
-/

namespace Flipbook

/-- Entries in the order of first insertion. -/
structure OrderedMap (κ β : Type) where
  /-- Keys with their values. -/
  entries : List (κ × β)
  deriving Repr

namespace OrderedMap

variable {κ β : Type}

/-- The map without entries. -/
def empty : OrderedMap κ β := ⟨[]⟩

/-- The keys in order. -/
def keys (m : OrderedMap κ β) : List κ :=
  m.entries.map (·.1)

variable [BEq κ]

/-- The value of a key. -/
def get? (m : OrderedMap κ β) (k : κ) : Option β :=
  m.entries.lookup k

/-- The key has a value. -/
def contains (m : OrderedMap κ β) (k : κ) : Bool :=
  (m.get? k).isSome

/-- Writes a value into a list of entries, in place or at the end. -/
def put (k : κ) (v : β) : List (κ × β) → List (κ × β)
  | [] => [(k, v)]
  | e :: es => if k == e.1 then (e.1, v) :: es else e :: put k v es

/-- The map in which `k` has the value `v`. -/
def insert (m : OrderedMap κ β) (k : κ) (v : β) : OrderedMap κ β :=
  ⟨put k v m.entries⟩

/-- Writes a list of entries one after the other. -/
def insertAll (m : OrderedMap κ β) (es : List (κ × β)) : OrderedMap κ β :=
  es.foldl (fun m e => m.insert e.1 e.2) m

/-- The map of a list of entries; of entries with one key the last one counts. -/
def ofList (es : List (κ × β)) : OrderedMap κ β :=
  empty.insertAll es

end OrderedMap

end Flipbook
