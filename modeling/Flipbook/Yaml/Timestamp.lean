import Flipbook.Value
import Flipbook.Yaml.Fault

/-!
# Dates and moments

A date is written with hyphens.  A time of day may follow, with any part of a second, and after it
the distance of the clock from universal time.
-/

namespace Flipbook.Yaml

/-- What is written in a date or a moment. -/
structure Timestamp where
  year : List Char
  month : List Char
  day : List Char
  /-- Hour, minute and second. -/
  clock? : Option (List Char × List Char × List Char) := none
  /-- The digits after the point. -/
  fraction : List Char := []
  /-- The sign, hour and minute of the distance from universal time; none for a clock that shows
  it. -/
  zone? : Option (Option (Bool × List Char × List Char)) := none

namespace Timestamp

/-- From `least` up to `most` digits at the start, as many as there are, and the rest. -/
def digits (least most : Nat) (cs : List Char) : Option (List Char × List Char) :=
  let ds := (cs.take most).takeWhile Char.isDigit
  if ds.length < least then none else some (ds, cs.drop ds.length)

/-- The rest after a character. -/
def after (c : Char) : List Char → Option (List Char)
  | d :: cs => if d == c then some cs else none
  | [] => none

/-- The distance from universal time at the end of a text. -/
def zone : List Char → Option (Option (Bool × List Char × List Char))
  | ['Z'] => some none
  | s :: cs =>
    if s == '+' || s == '-' then do
      let (hour, cs) ← digits 1 2 cs
      match cs with
      | [] => some (some (s == '-', hour, []))
      | ':' :: cs => match ← digits 2 2 cs with
        | (minute, []) => some (some (s == '-', hour, minute))
        | _ => none
      | _ => none
    else none
  | [] => none

/-- The time of day at the end of a text, after what separates it from the date. -/
def clock (t : Timestamp) (cs : List Char) : Option Timestamp := do
  let (hour, cs) ← digits 1 2 cs
  let (minute, cs) ← digits 2 2 (← after ':' cs)
  let (second, cs) ← digits 2 2 (← after ':' cs)
  let (fraction, cs) := match cs with
    | '.' :: cs => (cs.takeWhile Char.isDigit, cs.dropWhile Char.isDigit)
    | cs => ([], cs)
  let t := { t with clock? := some (hour, minute, second), fraction }
  match cs with
  | [] => some t
  | cs => return { t with zone? := some (← zone (cs.dropWhile fun c => c == ' ' || c == '\t')) }

/-- The parts of a text that is a date or a moment. -/
def ofText? (text : String) : Option Timestamp := do
  let (year, cs) ← digits 4 4 text.toList
  let (month, cs) ← digits 1 2 (← after '-' cs)
  let (day, cs) ← digits 1 2 (← after '-' cs)
  let t : Timestamp := { year, month, day }
  match cs with
  | [] => some t
  | c :: rest =>
    if c == 'T' || c == 't' then t.clock rest
    else if c == ' ' || c == '\t' then t.clock (rest.dropWhile fun d => d == ' ' || d == '\t')
    else none

/-- The text is known as a date or a moment without a kind: in a date alone, month and day have two
digits. -/
def isKnown (text : String) : Bool :=
  match ofText? text with
  | some t => t.clock?.isSome || (t.month.length == 2 && t.day.length == 2)
  | none => false

/-! ### Values -/

/-- The number that digits stand for. -/
def number (ds : List Char) : Nat := ds.foldl (fun n d => 10 * n + (d.toNat - '0'.toNat)) 0

/-- The year has a leap day. -/
def isLeap (year : Nat) : Bool := year % 4 == 0 && (year % 100 != 0 || year % 400 == 0)

/-- The number of days in a month. -/
def daysIn (year month : Nat) : Nat :=
  if month = 2 then (if isLeap year then 29 else 28)
  else if month = 4 ∨ month = 6 ∨ month = 9 ∨ month = 11 then 30 else 31

/-- The date, if the calendar has it. -/
def date? (t : Timestamp) : Option Date :=
  let year := number t.year
  let month := number t.month
  let day := number t.day
  if 1 ≤ year ∧ 1 ≤ month ∧ month ≤ 12 ∧ 1 ≤ day ∧ day ≤ daysIn year month then
    some ⟨year, month, day⟩
  else none

/-- The seconds that the clock is ahead of universal time, if it is less than a day. -/
def offset? : Option (Bool × List Char × List Char) → Option Int
  | none => some 0
  | some (behind, hour, minute) =>
    let seconds : Int := number hour * 3600 + number minute * 60
    if seconds < 86400 then some (if behind then -seconds else seconds) else none

/-- The first six digits after the point as millionths. -/
def micros (t : Timestamp) : Nat :=
  let ds := t.fraction.take 6
  number (ds ++ List.replicate (6 - ds.length) '0')

/-- The value of a date or a moment. -/
def value? (t : Timestamp) : Option Scalar := do
  match t.clock? with
  | none => return .date (← t.date?)
  | some (hour, minute, second) =>
    let offset ← match t.zone? with
      | none => some none
      | some zone => (offset? zone).map some
    let date ← t.date?
    if 24 ≤ number hour ∨ 60 ≤ number minute ∨ 60 ≤ number second then none
    else return .moment ⟨date, number hour, number minute, number second, t.micros, offset⟩

end Timestamp

end Flipbook.Yaml
