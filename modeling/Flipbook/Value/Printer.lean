import Flipbook.Numeric.Decimal
import Flipbook.Text.Quoted
import Flipbook.Value

/-!
# How values look in messages

Texts are quoted, numbers are written so that they read back, and collections list their parts
between brackets.  A whole number with too many digits is not written, and neither is a value that
holds one.
-/

namespace Flipbook

/-- Parts between brackets, with commas. -/
def bracketed (opening closing : String) (parts : List String) : String :=
  opening ++ ", ".intercalate parts ++ closing

/-- Parts between round brackets; a single part is followed by a comma. -/
def showTuple : List String → String
  | [part] => "(" ++ part ++ ",)"
  | parts => bracketed "(" ")" parts

namespace Date

/-- The date as a call with its parts. -/
def display (d : Date) : String :=
  bracketed "datetime.date(" ")" [d.year.repr, d.month.repr, d.day.repr]

/-- Year, month and day with hyphens. -/
def text (d : Date) : String :=
  "-".intercalate [Text.zeroPadded 4 d.year, Text.zeroPadded 2 d.month, Text.zeroPadded 2 d.day]

end Date

namespace Moment

/-- The offset from universal time as a call with its parts. -/
def displayOffset (seconds : Int) : String :=
  if seconds = 0 then "datetime.timezone.utc"
  else
    let days := seconds.fdiv 86400
    let rest := seconds.fmod 86400
    let dayPart := if days = 0 then [] else ["days=" ++ toString days]
    let restPart := if rest = 0 then [] else ["seconds=" ++ toString rest]
    "datetime.timezone(" ++ bracketed "datetime.timedelta(" ")" (dayPart ++ restPart) ++ ")"

/-- The moment as a call with its parts; seconds and their parts are left out at the end when they
are zero. -/
def display (m : Moment) : String :=
  let seconds := if m.second = 0 && m.micros = 0 then [] else [m.second.repr]
  let micros := if m.micros = 0 then [] else [m.micros.repr]
  let zone := match m.offset with
    | none => []
    | some s => ["tzinfo=" ++ displayOffset s]
  bracketed "datetime.datetime(" ")"
    ([m.date.year.repr, m.date.month.repr, m.date.day.repr, m.hour.repr, m.minute.repr]
      ++ seconds ++ micros ++ zone)

/-- The offset from universal time in hours and minutes, and seconds where there are any. -/
def offsetText (seconds : Int) : String :=
  let n := seconds.natAbs
  let rest := if n % 60 = 0 then "" else ":" ++ Text.zeroPadded 2 (n % 60)
  (if seconds < 0 then "-" else "+") ++ Text.zeroPadded 2 (n / 3600) ++ ":"
    ++ Text.zeroPadded 2 (n / 60 % 60) ++ rest

/-- Date and time of day, the parts of a second only where there are any. -/
def text (m : Moment) : String :=
  let clock := ":".intercalate
    [Text.zeroPadded 2 m.hour, Text.zeroPadded 2 m.minute, Text.zeroPadded 2 m.second]
  let micros := if m.micros = 0 then "" else "." ++ Text.zeroPadded 6 m.micros
  m.date.text ++ " " ++ clock ++ micros ++ (m.offset.map offsetText).getD ""

end Moment

namespace Scalar

/-- One byte of a byte string quoted with `mark`. -/
def escapeByte (mark : Char) (b : UInt8) : List Char :=
  let c := Char.ofNat b.toNat
  if b.toNat < 127 then Text.escapeIn mark c else Text.escapeCode c

/-- The scalar as it looks in messages. -/
def display : Scalar → String
  | null => "None"
  | bool b => if b then "True" else "False"
  | int n => toString n
  | float x => Numeric.showFloat x
  | str s => Text.quoted s
  | bytes data =>
    let mark := Text.quoteMark (data.map fun b => Char.ofNat b.toNat)
    String.ofList ('b' :: mark :: data.flatMap (escapeByte mark) ++ [mark])
  | date d => d.display
  | moment m => m.display

/-- The scalar as a text: a text itself, a date in its own notation, any other as in messages. -/
def text : Scalar → String
  | str s => s
  | date d => d.text
  | moment m => m.text
  | s => s.display

/-- The scalar is no number that is too long to be written. -/
def isWritable : Scalar → Bool
  | int n => Text.isWritable n
  | _ => true

end Scalar

namespace Value

mutual

/-- The value as it looks in messages. -/
def display : Value → String
  | scalar s => s.display
  | list items => bracketed "[" "]" (displayItems items)
  | tuple items => showTuple (displayItems items)
  | set [] => "set()"
  | set items => bracketed "\x7b" "\x7d" (items.map Scalar.display)
  | map fields => bracketed "\x7b" "\x7d" (displayFields fields)

/-- The items of a sequence. -/
def displayItems : List Value → List String
  | [] => []
  | v :: vs => display v :: displayItems vs

/-- The entries of a mapping. -/
def displayFields : List (Scalar × Value) → List String
  | [] => []
  | (k, v) :: fs => (k.display ++ ": " ++ display v) :: displayFields fs

end

/-- The value as a text. -/
def text : Value → String
  | scalar s => s.text
  | v => v.display

mutual

/-- The value holds no number that is too long to be written. -/
def isWritable : Value → Bool
  | scalar s => s.isWritable
  | list items | tuple items => allWritable items
  | set items => items.all Scalar.isWritable
  | map fields => fieldsWritable fields

/-- The items of a sequence hold none. -/
def allWritable : List Value → Bool
  | [] => true
  | v :: vs => isWritable v && allWritable vs

/-- The entries of a mapping hold none. -/
def fieldsWritable : List (Scalar × Value) → Bool
  | [] => true
  | (k, v) :: fs => k.isWritable && isWritable v && fieldsWritable fs

end

end Value

end Flipbook
