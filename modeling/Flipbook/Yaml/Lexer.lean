import Flipbook.Yaml.ScalarText
import Flipbook.Yaml.TagText

/-!
# From texts to tokens

A key of a mapping is known as such only from the colon after it.  The lexer remembers where the
last key may have started, and puts the tokens of the key and of its mapping in there when it comes
to the colon.
-/

namespace Flipbook.Yaml

/-- A place where a key may have started.  It is on one line with its colon. -/
structure KeyStart where
  /-- How many tokens come before. -/
  token : Nat
  /-- Only a key may stand here. -/
  required : Bool
  spot : Spot
  deriving DecidableEq, Repr

/-- A text that is being cut into tokens. -/
structure Lexer where
  rest : Rest
  tokens : Array Token := #[]
  /-- The column of the innermost block, -1 where there is none. -/
  indent : Int := -1
  /-- The columns of the blocks around it. -/
  outer : List Int := []
  /-- How many brackets are open. -/
  flow : Nat := 0
  /-- A key may start here. -/
  allowKey : Bool := true
  /-- The last place where a key may have started, for each number of open brackets. -/
  starts : List (Nat × KeyStart) := []

namespace Lexer

/-- The greatest distance of a key from its colon. -/
def maxKeyLength : Nat := 1024

variable (L : Lexer)

/-- Adds a token. -/
def push (t : Token) : Lexer := { L with tokens := L.tokens.push t }

/-- Adds a token that is read up to `rest`. -/
def take (t : Token) (rest : Rest) : Lexer := { L.push t with rest }

/-! ### Places of keys -/

/-- Forgets the places that are on another line or too far back. -/
def dropStale : Except ReadFault Lexer :=
  let isStale (k : KeyStart) : Bool := match L.rest with
    | [] => true
    | s :: _ => k.spot.line != s.line || maxKeyLength < s.index - k.spot.index
  if L.starts.any fun k => isStale k.2 && k.2.required then .error .malformed
  else .ok { L with starts := L.starts.filter fun k => !isStale k.2 }

/-- Forgets the place between the innermost brackets. -/
def dropStart : Except ReadFault Lexer :=
  match L.starts.lookup L.flow with
  | some k =>
    if k.required then .error .malformed
    else .ok { L with starts := L.starts.filter (·.1 != L.flow) }
  | none => .ok L

/-- Remembers that a key may start at a place. -/
def saveStart (s : Spot) : Except ReadFault Lexer :=
  if L.allowKey then do
    let L ← L.dropStart
    let required := L.flow == 0 && L.indent == s.column
    return { L with starts := (L.flow, ⟨L.tokens.size, required, s⟩) :: L.starts }
  else .ok L

/-! ### Indentation -/

/-- The innermost of some blocks that is not to the right of a column, the blocks around it, and
how many are to the right. -/
def unwound (column : Int) : (indent : Int) → (outer : List Int) → Int × List Int × Nat
  | indent, [] => (indent, [], 0)
  | indent, next :: outer =>
    if column < indent then
      let (indent, outer, count) := unwound column next outer
      (indent, outer, count + 1)
    else (indent, next :: outer, 0)

/-- Ends the blocks to the right of a column; between brackets columns do not matter. -/
def unwind (column : Int) : Lexer :=
  if 0 < L.flow then L
  else
    let (indent, outer, count) := unwound column L.indent L.outer
    { L with
      indent := indent
      outer := outer
      tokens := L.tokens ++ Array.replicate count Token.blockEnd }

/-- Starts a block at a column, if none is there: its token is put in at a place among the
tokens. -/
def startBlock (column : Nat) (place : Nat) (t : Token) : Lexer :=
  if L.flow == 0 && L.indent < column then
    { L with
      indent := column
      outer := L.indent :: L.outer
      tokens := L.tokens.insertIdxIfInBounds place t }
  else L

/-! ### The tokens -/

/-- Ends everything before a line that belongs to no block. -/
def leaveBlocks : Except ReadFault Lexer := do
  let L ← (L.unwind (-1)).dropStart
  return { L with allowKey := false }

/-- A token that may be a key, or the start of one. -/
def keyLike (s : Spot) (token : Except ReadFault (Token × Rest)) : Except ReadFault Lexer := do
  let L ← L.saveStart s
  let (t, rest) ← token
  return { L.take t rest with allowKey := false }

/-- An opening bracket. -/
def openFlow (t : Token) (s : Spot) (rest : Rest) : Except ReadFault Lexer := do
  let L ← L.saveStart s
  return { L.take t rest with flow := L.flow + 1, allowKey := true }

/-- A closing bracket. -/
def closeFlow (t : Token) (rest : Rest) : Except ReadFault Lexer := do
  if L.flow = 0 then throw .malformed
  let L ← L.dropStart
  return { L.take t rest with flow := L.flow - 1, allowKey := false }

/-- A sign that starts an entry of a sequence or, with a question mark, a key; in a block it may
start a block of its own. -/
def entrySign (t start : Token) (allowKey : Bool) (s : Spot) (rest : Rest) :
    Except ReadFault Lexer := do
  if L.flow = 0 && !L.allowKey then throw .malformed
  let L ← (L.startBlock s.column L.tokens.size start).dropStart
  return { L.take t rest with allowKey }

/-- The colon after a key. -/
def valueSign (s : Spot) (rest : Rest) : Except ReadFault Lexer :=
  match L.starts.lookup L.flow with
  | some k =>
    let L := { L with
      starts := L.starts.filter (·.1 != L.flow)
      tokens := L.tokens.insertIdxIfInBounds k.token Token.key }
    let L := L.startBlock k.spot.column k.token .blockMappingStart
    .ok { L.take .value rest with allowKey := false }
  | none => L.entrySign .value .blockMappingStart (L.flow = 0) s rest

/-- A plain scalar, after which a new line may start a key. -/
def plain (s : Spot) : Except ReadFault Lexer := do
  let L ← L.saveStart s
  let p := plainScalar (0 < L.flow) (L.indent + 1) L.rest
  return { L.take (.scalar true (String.ofList p.text)) p.rest with allowKey := p.endsLine }

/-- A block of lines. -/
def block (folded : Bool) (rest : Rest) : Except ReadFault Lexer := do
  let L ← L.dropStart
  let (text, rest) ← blockScalar folded L.indent rest
  return { L.take (.scalar false (String.ofList text)) rest with allowKey := true }

/-- A plain scalar may start with this character. -/
def startsPlain (c : Char) (next : Option Char) : Bool :=
  !("-?:,[]\x7b\x7d#&*!|>'\"%@`".toList.contains c || isSpace c || isBreak c)
    || (!endsWord next && (c == '-' || (L.flow == 0 && (c == '?' || c == ':'))))

/-- A sign counts as such before a space or, for some signs, anywhere between brackets. -/
def isSign (next : Option Char) (inFlow : Bool) : Bool :=
  endsWord next || (inFlow && 0 < L.flow)

/-- Reads the token that starts at a character of which `rest` is what follows. -/
def token (s : Spot) (rest : Rest) : Except ReadFault Lexer :=
  let next := rest.peek
  let quoted (double : Bool) : Except ReadFault (Token × Rest) :=
    (quotedScalar double rest).map fun (cs, r) => (.scalar false (String.ofList cs), r)
  match s.char with
  | '[' => L.openFlow .flowSequenceStart s rest
  | '\x7b' => L.openFlow .flowMappingStart s rest
  | ']' => L.closeFlow .flowSequenceEnd rest
  | '\x7d' => L.closeFlow .flowMappingEnd rest
  | ',' => do
    let L ← L.dropStart
    return { L.take .flowEntry rest with allowKey := true }
  | '*' => L.keyLike s ((anchorText rest).map fun (name, r) => (.reference name, r))
  | '&' => L.keyLike s ((anchorText rest).map fun (name, r) => (.anchor name, r))
  | '!' => L.keyLike s (tagText L.rest)
  | '\'' => L.keyLike s (quoted false)
  | '"' => L.keyLike s (quoted true)
  | c =>
    if c == '-' && L.isSign next false then
      L.entrySign .blockEntry .blockSequenceStart true s rest
    else if c == '?' && L.isSign next true then
      L.entrySign .key .blockMappingStart (L.flow = 0) s rest
    else if c == ':' && L.isSign next true then L.valueSign s rest
    else if c == '|' && L.flow == 0 then L.block false rest
    else if c == '>' && L.flow == 0 then L.block true rest
    else if L.startsPlain c next then L.plain s
    else .error .malformed

/-- Reads the next token, which may stand at the start of a line and belong to no block. -/
def next (s : Spot) (rest : Rest) : Except ReadFault Lexer := do
  if s.column = 0 ∧ s.char = '%' then
    let L ← L.leaveBlocks
    let (d, rest) ← directiveText rest
    return L.take (.directive d) rest
  else if s.column = 0 ∧ L.rest.startsSeparator '-' then
    return (← L.leaveBlocks).take .documentStart (L.rest.drop 3)
  else if s.column = 0 ∧ L.rest.startsSeparator '.' then
    return (← L.leaveBlocks).take .documentEnd (L.rest.drop 3)
  else L.token s rest

/-- The rest from the next token on: spaces, comments and line ends are left out.  After a line end
a key may start, unless brackets are open. -/
def skipBlank (inFlow : Bool) (inComment allowKey : Bool) : Rest → Bool × Rest
  | [] => (allowKey, [])
  | s :: r =>
    if isBreak s.char then skipBlank inFlow false (allowKey || !inFlow) r
    else if inComment || s.char == ' ' then skipBlank inFlow inComment allowKey r
    else if s.char == '#' then skipBlank inFlow true allowKey r
    else (allowKey, s :: r)

/-- Goes on to the next token. -/
def skip : Lexer :=
  let (allowKey, rest) := skipBlank (0 < L.flow) false L.allowKey L.rest
  { L with rest, allowKey }

/-- All tokens from a place on; `fuel` bounds their number. -/
def run : (fuel : Nat) → Lexer → Except ReadFault (Array Token)
  | 0, _ => .error .malformed
  | fuel + 1, L => do
    let L ← L.skip.dropStale
    match L.rest with
    | [] => return (← (L.unwind (-1)).dropStart).tokens
    | s :: rest => run fuel (← (L.unwind s.column).next s rest)

end Lexer

/-- The tokens of a text. -/
def Token.ofText (text : String) : Except ReadFault (List Token) := do
  let rest ← Rest.ofText text
  return (← Lexer.run (rest.length + 1) { rest }).toList

end Flipbook.Yaml
