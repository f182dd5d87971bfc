import Flipbook.Text.Numeral
import Flipbook.Numeric.Binary64

/-!
# Values of documents

What a document holds before it is read as a script or as a configuration: scalars, sequences and
mappings.  Only scalars are keys of a mapping, and a key counts once.
-/

namespace Flipbook

/-- A calendar date. -/
structure Date where
  /-- The year. -/
  year : Nat
  /-- The month, from 1. -/
  month : Nat
  /-- The day of the month, from 1. -/
  day : Nat
  deriving DecidableEq, Repr

/-- A date with a time of day. -/
structure Moment where
  /-- The day. -/
  date : Date
  /-- The hour. -/
  hour : Nat
  /-- The minute. -/
  minute : Nat
  /-- The second. -/
  second : Nat
  /-- The part of a second, in millionths. -/
  micros : Nat
  /-- How many seconds the clock is ahead of universal time, where that is known. -/
  offset : Option Int
  deriving DecidableEq, Repr

namespace Date

/-- The number of days in the years before a date's year and the months before its month, and the
days of its month. -/
def dayNumber (d : Date) : Int :=
  let year : Int := if d.month ≤ 2 then d.year - 1 else d.year
  let month : Nat := if d.month ≤ 2 then d.month + 9 else d.month - 3
  365 * year + year.fdiv 4 - year.fdiv 100 + year.fdiv 400 + (153 * month + 2) / 5 + d.day

end Date

namespace Moment

/-- The moment in millionths of a second of universal time, as far as its offset is known. -/
def instant (m : Moment) : Int :=
  let seconds := ((m.date.dayNumber * 24 + m.hour) * 60 + m.minute) * 60 + m.second
  (seconds - m.offset.getD 0) * 1000000 + m.micros

/-- Two moments are one: by universal time where both offsets are known, else by the clock. -/
def same (m n : Moment) : Bool :=
  if m.offset.isSome && n.offset.isSome then m.instant == n.instant else m == n

end Moment

/-- A value without parts. -/
inductive Scalar
  | null
  | bool (b : Bool)
  | int (n : Int)
  | float (x : Float)
  | str (s : String)
  | bytes (data : List UInt8)
  | date (d : Date)
  | moment (m : Moment)

/-- A value of a document. -/
inductive Value
  | scalar (s : Scalar)
  | list (items : List Value)
  | tuple (items : List Value)
  | set (items : List Scalar)
  | map (fields : List (Scalar × Value))

namespace Scalar

/-- The number that a truth value or a whole number stands for as a key. -/
def wholeKey? : Scalar → Option Int
  | bool b => some (if b then 1 else 0)
  | int n => some n
  | float x => (Numeric.Binary64.read x).toInt?
  | _ => none

/-- Two scalars are one key: numbers by their value, whatever their kind, and all floats that are no
number. -/
def sameKey (a b : Scalar) : Bool :=
  match a, b with
  | null, null => true
  | str s, str t => s == t
  | bytes s, bytes t => s == t
  | date d, date e => d == e
  | moment m, moment n => m.same n
  | float x, float y => x == y || x.isNaN && y.isNaN
  | a, b => match a.wholeKey?, b.wholeKey? with
    | some m, some n => m == n
    | _, _ => false

end Scalar

namespace Value

/-- The missing value. -/
@[match_pattern] abbrev null : Value := scalar .null

/-- A truth value. -/
@[match_pattern] abbrev bool (b : Bool) : Value := scalar (.bool b)

/-- A whole number. -/
@[match_pattern] abbrev int (n : Int) : Value := scalar (.int n)

/-- A float. -/
@[match_pattern] abbrev float (x : Float) : Value := scalar (.float x)

/-- A text. -/
@[match_pattern] abbrev str (s : String) : Value := scalar (.str s)

instance : Coe String Value := ⟨str⟩

/-- The value is neither missing, nor zero, nor empty. -/
def truthy : Value → Bool
  | null => false
  | bool b => b
  | int n => n != 0
  | float x => !(x == 0.0)
  | str s => s != ""
  | scalar (.bytes data) => !data.isEmpty
  | scalar _ => true
  | list items | tuple items => !items.isEmpty
  | set items => !items.isEmpty
  | map fields => !fields.isEmpty

mutual

/-- The value can be looked up: it is a scalar, or a tuple of values that can be. -/
def isKey : Value → Bool
  | scalar _ => true
  | tuple items => allKeys items
  | _ => false

/-- All of these values can be looked up. -/
def allKeys : List Value → Bool
  | [] => true
  | v :: vs => isKey v && allKeys vs

end

/-- The value of a key among the entries of a mapping. -/
def lookup {β : Type} (fields : List (Scalar × β)) (key : Scalar) : Option β :=
  (fields.find? fun f => f.1.sameKey key).map (·.2)

/-- The entry of a name, with a missing value where there is none. -/
def field (fields : List (Scalar × Value)) (name : String) : Value :=
  (lookup fields (.str name)).getD null

/-- Writes an entry, in place where the key is there already. -/
def putField {β : Type} (key : Scalar) (v : β) : List (Scalar × β) → List (Scalar × β)
  | [] => [(key, v)]
  | f :: fs => if f.1.sameKey key then (f.1, v) :: fs else f :: putField key v fs

/-- The entries of a mapping that is made of a list of entries; of those with one key the last value
counts. -/
def collected {β : Type} (fields : List (Scalar × β)) : List (Scalar × β) :=
  fields.foldl (fun acc f => putField f.1 f.2 acc) []

/-- The mapping with these entries. -/
def ofFields (fields : List (Scalar × Value)) : Value := map (collected fields)

/-- The entries of a value that is a mapping. -/
def entries? : Value → Option (List (Scalar × Value))
  | map fields => some fields
  | _ => none

end Value

end Flipbook
