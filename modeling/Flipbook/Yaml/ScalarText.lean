import Flipbook.Text.Digit
import Flipbook.Yaml.Spot

/-!
# The texts of scalars

A scalar is plain, quoted in one of two ways, or a block of indented lines.  In all but one kind of
block the lines are folded: a single line end becomes a space, and of several all but the first
are kept.
-/

namespace Flipbook.Yaml

/-- What a line end and the line ends of the empty lines after it become. -/
def foldBreaks (first : List Char) (more : List Char) : List Char :=
  if first != ['\n'] then first ++ more else if more.isEmpty then [' '] else more

/-! ### Plain scalars -/

/-- A plain scalar stops before this character.  Between brackets there are more that stop it. -/
def stopsPlain (flow : Bool) (c : Char) (next : Option Char) : Bool :=
  isSpace c || isBreak c
    || (c == ':' && (endsWord next || (flow && next.any fun d => ",[]\x7b\x7d".toList.contains d)))
    || (flow && ",?[]\x7b\x7d".toList.contains c)

/-- The characters of a plain scalar up to the next space. -/
def plainRun (flow : Bool) : Rest → List Char × Rest
  | [] => ([], [])
  | s :: r =>
    if stopsPlain flow s.char (Rest.peek r) then ([], s :: r)
    else
      let (cs, rest) := plainRun flow r
      (s.char :: cs, rest)

/-- The line ends at the start with the spaces between them; there is no result where a separator
of documents stands at the start of a line. -/
def plainBreaks (lineStart : Bool) : Rest → Option (List Char) × Rest
  | [] => (some [], [])
  | s :: r =>
    if lineStart && Rest.atSeparator (s :: r) then (none, s :: r)
    else if s.char == ' ' then plainBreaks false r
    else if isBreak s.char then
      let (more, rest) := plainBreaks true r
      (more.map (keptBreak s.char :: ·), rest)
    else (some [], s :: r)

/-- What stands between two runs of a plain scalar. -/
structure PlainGap where
  /-- What it becomes in the text; nothing where the scalar ends. -/
  text : List Char
  /-- It goes over the end of a line. -/
  crossesLine : Bool
  rest : Rest

/-- The spaces and line ends at the start. -/
def plainGap (r : Rest) : PlainGap :=
  let (spaces, r) := r.spanBy (· == ' ')
  match r.splitBreak with
  | ([], r) => ⟨spaces, false, r⟩
  | (first, r) => match plainBreaks true r with
    | (none, r) => ⟨[], true, r⟩
    | (some more, r) => ⟨foldBreaks first more, true, r⟩

/-- A scalar that has been read. -/
structure PlainScalar where
  text : List Char
  /-- The scalar is followed by the end of a line. -/
  endsLine : Bool
  rest : Rest

/-- A plain scalar continues in columns from `indent` on, and anywhere between brackets.  `before`
is what stood before the next run; `fuel` bounds the number of runs. -/
def plainFrom (flow : Bool) (indent : Int) : (fuel : Nat) → (before : PlainGap) → PlainScalar
  | 0, before => ⟨[], before.crossesLine, before.rest⟩
  | fuel + 1, before =>
    match plainRun flow before.rest with
    | ([], r) => ⟨[], before.crossesLine, r⟩
    | (run, r) =>
      let gap := plainGap r
      let text := before.text ++ run
      let outside := match gap.rest with
        | s :: _ => !flow && (s.column : Int) < indent
        | [] => true
      if gap.text.isEmpty || gap.rest.peek == some '#' || outside then
        ⟨text, gap.crossesLine, gap.rest⟩
      else
        let more := plainFrom flow indent fuel gap
        { more with text := text ++ more.text }

/-- The plain scalar at the start. -/
def plainScalar (flow : Bool) (indent : Int) (r : Rest) : PlainScalar :=
  plainFrom flow indent r.length ⟨[], false, r⟩

/-! ### Quoted scalars -/

/-- The line ends at the start with the spaces and tabs between them.  No separator of documents
may stand at the start of a line. -/
def quotedBreaks (lineStart : Bool) : Rest → Except ReadFault (List Char × Rest)
  | [] => .ok ([], [])
  | s :: r =>
    if lineStart && Rest.atSeparator (s :: r) then .error .malformed
    else if isSpace s.char then quotedBreaks false r
    else if isBreak s.char then do
      let (more, rest) ← quotedBreaks true r
      return (keptBreak s.char :: more, rest)
    else .ok ([], s :: r)

/-- The spaces and line ends at the start, and what they become. -/
def quotedGap (r : Rest) : Except ReadFault (List Char × Rest) :=
  let (spaces, r) := r.spanBy isSpace
  match r.splitBreak with
  | ([], r) => .ok (spaces, r)
  | (first, r) => do
    let (more, r) ← quotedBreaks true r
    return (foldBreaks first more, r)

/-- The character that a backslash and a letter stand for. -/
def namedEscape? : Char → Option Char
  | '0' => some '\x00'
  | 'a' => some '\x07'
  | 'b' => some '\x08'
  | 't' | '\t' => some '\t'
  | 'n' => some '\n'
  | 'v' => some '\x0b'
  | 'f' => some '\x0c'
  | 'r' => some '\r'
  | 'e' => some '\x1b'
  | ' ' => some ' '
  | '"' => some '"'
  | '\\' => some '\\'
  | '/' => some '/'
  | 'N' => some '\u0085'
  | '_' => some '\u00a0'
  | 'L' => some '\u2028'
  | 'P' => some '\u2029'
  | _ => none

/-- How many digits follow a letter that announces the number of a character. -/
def escapeWidth? : Char → Option Nat
  | 'x' => some 2
  | 'u' => some 4
  | 'U' => some 8
  | _ => none

/-- The character of a number.  Numbers up to `2 ^ 31` that no character has are told apart from
greater ones; the numbers of surrogates become the replacement character. -/
def charOfNumber (n : Nat) : Except ReadFault Char :=
  if 0x7fffffff < n then .error (.scalar .outOfRange)
  else if 0x10ffff < n then .error (.scalar .malformed)
  else if 0xd800 ≤ n ∧ n ≤ 0xdfff then .ok '\ufffd'
  else .ok (Char.ofNat n)

/-- The character whose number is written with exactly `width` digits at the start. -/
def numberedEscape (width : Nat) (r : Rest) : Except ReadFault (Char × Rest) := do
  let some ds := (r.take width).mapM (Text.hexDigitValue? ·.char) | throw .malformed
  if ds.length < width then throw .malformed
  return (← charOfNumber (ds.foldl (fun n d => 16 * n + d) 0), r.drop width)

/-- What a backslash with the characters after it stands for. -/
def escape : Rest → Except ReadFault (List Char × Rest)
  | [] => .error .malformed
  | s :: r =>
    match namedEscape? s.char, escapeWidth? s.char with
    | some c, _ => .ok ([c], r)
    | none, some width => do
      let (c, r) ← numberedEscape width r
      return ([c], r)
    | none, none => if isBreak s.char then quotedBreaks true r else .error .malformed

/-- A scalar between double quotes (`double`) or single ones, up to and including the closing
quote; `fuel` bounds the number of parts. -/
def quotedFrom (double : Bool) : (fuel : Nat) → Rest → Except ReadFault (List Char × Rest)
  | 0, _ | _, [] => .error .malformed
  | fuel + 1, s :: r =>
    let add (part : List Char × Rest) : Except ReadFault (List Char × Rest) := do
      let (more, rest) ← quotedFrom double fuel part.2
      return (part.1 ++ more, rest)
    if s.char == '"' && double then .ok ([], r)
    else if s.char == '\'' && !double then
      if Rest.peek r == some '\'' then add (['\''], r.drop 1) else .ok ([], r)
    else if s.char == '\\' && double then do add (← escape r)
    else if isSpace s.char || isBreak s.char then do add (← quotedGap (s :: r))
    else add ([s.char], r)

/-- The scalar after an opening quote. -/
def quotedScalar (double : Bool) (r : Rest) : Except ReadFault (List Char × Rest) :=
  quotedFrom double (r.length + 1) r

/-! ### Blocks -/

/-- What happens to the line ends at the end of a block. -/
inductive Chomping
  /-- None is kept. -/
  | strip
  /-- One is kept. -/
  | clip
  /-- All are kept. -/
  | keep
  deriving DecidableEq, Repr

/-- The sign for what happens at the end of a block, if there is one. -/
def splitChomping : Rest → Option Chomping × Rest
  | s :: r =>
    if s.char == '+' then (some .keep, r)
    else if s.char == '-' then (some .strip, r)
    else (none, s :: r)
  | [] => (none, [])

/-- The digit for the indentation of a block, if there is one; it must not be zero. -/
def splitIncrement : Rest → Except ReadFault (Option Nat × Rest)
  | s :: r => match Text.asciiDigitValue? s.char with
    | some 0 => .error .malformed
    | some n => .ok (some n, r)
    | none => .ok (none, s :: r)
  | [] => .ok (none, [])

/-- The sign and the digit at the start of a block, in either order. -/
def blockIndicators (r : Rest) : Except ReadFault (Chomping × Option Nat × Rest) := do
  match splitChomping r with
  | (some chomping, r) =>
    let (increment, r) ← splitIncrement r
    return (chomping, increment, r)
  | (none, r) =>
    let (increment, r) ← splitIncrement r
    match increment, splitChomping r with
    | some _, (some chomping, r) => return (chomping, increment, r)
    | _, _ => return (.clip, increment, r)

/-- The end of a line on which only a comment may stand. -/
def emptyLineEnd (r : Rest) : Except ReadFault Rest :=
  let r := r.dropSpaces
  let r := if r.peek == some '#' then r.dropLine else r
  if endsLine r.peek then .ok r.splitBreak.2 else .error .malformed

/-- The line ends of the empty lines at the start, the widest of their indentations, and the
rest. -/
def blockIndentation (widest : Nat) : Rest → List Char × Nat × Rest
  | [] => ([], widest, [])
  | s :: r =>
    if s.char == ' ' then blockIndentation (max widest (s.column + 1)) r
    else if isBreak s.char then
      let (more, widest, rest) := blockIndentation widest r
      (keptBreak s.char :: more, widest, rest)
    else ([], widest, s :: r)

/-- The line ends of the empty lines at the start, and the rest from column `indent` on. -/
def blockBreaks (indent : Nat) : Rest → List Char × Rest
  | [] => ([], [])
  | s :: r =>
    if s.char == ' ' && s.column < indent then blockBreaks indent r
    else if isBreak s.char then
      let (more, rest) := blockBreaks indent r
      (keptBreak s.char :: more, rest)
    else ([], s :: r)

/-- The next line belongs to a block of this indentation. -/
def continuesBlock (indent : Nat) : Rest → Bool
  | s :: _ => s.column == indent
  | [] => false

/-- A line that is not indented further; only between two of them lines are folded. -/
def startsWithText (r : Rest) : Bool := !(r.peek.any isSpace)

/-- The lines of a block from a line on; `before` are the line ends of the empty lines before it,
and `fuel` bounds the number of lines. -/
def blockLines (folded : Bool) (indent : Nat) (chomping : Chomping) :
    (fuel : Nat) → (before : List Char) → Rest → List Char × Rest
  | 0, _, r => ([], r)
  | fuel + 1, before, r =>
    let (line, after) := r.spanBy fun c => !isBreak c
    let (lineEnd, after) := after.splitBreak
    let (breaks, after) := blockBreaks indent after
    if continuesBlock indent after then
      let folds := folded && lineEnd == ['\n'] && startsWithText r && startsWithText after
      let between := if folds then (if breaks.isEmpty then [' '] else []) else lineEnd
      let (more, rest) := blockLines folded indent chomping fuel breaks after
      (before ++ line ++ between ++ more, rest)
    else
      let tail := match chomping with
        | .strip => []
        | .clip => lineEnd
        | .keep => lineEnd ++ breaks
      (before ++ line ++ tail, after)

/-- The block after its sign, inside a collection indented by `outer`. -/
def blockScalar (folded : Bool) (outer : Int) (r : Rest) :
    Except ReadFault (List Char × Rest) := do
  let (chomping, increment, r) ← blockIndicators r
  if !endsField r.peek then throw .malformed
  let r ← emptyLineEnd r
  let least := (max (outer + 1) 1).toNat
  let (breaks, indent, r) := match increment with
    | none =>
      let (breaks, widest, r) := blockIndentation 0 r
      (breaks, max least widest, r)
    | some n =>
      let indent := least + n - 1
      let (breaks, r) := blockBreaks indent r
      (breaks, indent, r)
  if continuesBlock indent r then return blockLines folded indent chomping (r.length + 1) breaks r
  else return (if chomping = .keep then breaks else [], r)

end Flipbook.Yaml
