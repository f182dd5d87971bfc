import Flipbook.Text.Digit
import Flipbook.Yaml.Token

/-!
# The texts of directives, anchors and kinds
-/

namespace Flipbook.Yaml

/-- A name at the start, which must not be empty and must be followed by a character that satisfies
`next`. -/
def nameText (next : Option Char → Bool) (r : Rest) : Except ReadFault (String × Rest) :=
  match r.spanBy isNameChar with
  | ([], _) => .error .malformed
  | (cs, r) => if next r.peek then .ok (String.ofList cs, r) else .error .malformed

/-- The character may follow an anchor or a reference to one. -/
def endsAnchor (c : Option Char) : Bool :=
  endsWord c || c.any fun d => "?:,]\x7d%@`".toList.contains d

/-- The name of an anchor or of a reference, after its sign. -/
def anchorText (r : Rest) : Except ReadFault (String × Rest) := nameText endsAnchor r

/-! ### Kinds -/

/-- The character may stand in the name of a kind. -/
def isTagChar (c : Char) : Bool := c.isAlphanum || "-;/?:@&=+$,_.!~*'()[]%".toList.contains c

/-- The bytes that are written with two digits each, after percent signs, at the start. -/
def escapedBytes : Rest → Except ReadFault (List UInt8 × Rest)
  | [] => .ok ([], [])
  | p :: r =>
    if p.char != '%' then .ok ([], p :: r)
    else match r with
      | a :: b :: r => match Text.hexDigitValue? a.char, Text.hexDigitValue? b.char with
        | some x, some y => do
          let (more, r) ← escapedBytes r
          return (UInt8.ofNat (16 * x + y) :: more, r)
        | _, _ => .error .malformed
      | _ => .error .malformed

/-- The characters of the name of a kind; `fuel` bounds the number of parts. -/
def tagChars : (fuel : Nat) → Rest → Except ReadFault (List Char × Rest)
  | 0, r => .ok ([], r)
  | fuel + 1, r =>
    match r with
    | [] => .ok ([], [])
    | s :: rest =>
      if !isTagChar s.char then .ok ([], r)
      else if s.char == '%' then do
        let (bytes, rest) ← escapedBytes r
        let some text := String.fromUTF8? ⟨bytes.toArray⟩ | throw .malformed
        let (more, rest) ← tagChars fuel rest
        return (text.toList ++ more, rest)
      else do
        let (more, rest) ← tagChars fuel rest
        return (s.char :: more, rest)

/-- The name of a kind, which must not be left out. -/
def tagName (r : Rest) : Except ReadFault (String × Rest) := do
  if !(r.peek.any isTagChar) then throw .malformed
  let (cs, r) ← tagChars r.length r
  return (String.ofList cs, r)

/-- A handle: an exclamation mark, or a name between two of them. -/
def tagHandle (r : Rest) : Except ReadFault (String × Rest) := do
  if r.peek != some '!' then throw .malformed
  let (cs, rest) := Rest.spanBy isNameChar (r.drop 1)
  if cs.isEmpty && rest.peek == some ' ' then return ("!", rest)
  if rest.peek != some '!' then throw .malformed
  return (String.ofList ('!' :: cs ++ ['!']), rest.drop 1)

/-- A second exclamation mark follows before the next space. -/
def hasHandle (r : Rest) : Bool :=
  (r.takeWhile fun s => !(isBreak s.char || s.char == ' ')).any (·.char == '!')

/-- A kind from its exclamation mark on: in full between angle brackets, without a name, or by a
handle and the rest of the name. -/
def tagText (r : Rest) : Except ReadFault (Token × Rest) := do
  let after := r.drop 1
  let (token, rest) ←
    if Rest.peek after == some '<' then do
      let (name, rest) ← tagName (after.drop 1)
      if rest.peek != some '>' then throw .malformed
      pure (Token.tag none name, rest.drop 1)
    else if endsWord (Rest.peek after) then pure (Token.tag none "!", after)
    else do
      let (handle, rest) ← if hasHandle after then tagHandle r else pure ("!", after)
      let (name, rest) ← tagName rest
      pure (Token.tag (some handle) name, rest)
  if endsField (Rest.peek rest) then return (token, rest) else throw .malformed

/-! ### Directives -/

/-- The whole number at the start. -/
def directiveNumber (r : Rest) : Except ReadFault (Nat × Rest) :=
  match r.spanBy Char.isDigit with
  | ([], _) => .error .malformed
  | (ds, r) => .ok (ds.foldl (fun n d => 10 * n + (d.toNat - '0'.toNat)) 0, r)

/-- The version after its directive. -/
def directiveVersion (r : Rest) : Except ReadFault (Directive × Rest) := do
  let (major, r) ← directiveNumber r.dropSpaces
  if r.peek != some '.' then throw .malformed
  let (_, r) ← directiveNumber (r.drop 1)
  if endsField r.peek then return (.version major, r) else throw .malformed

/-- The handle and what it stands for after their directive. -/
def directiveHandle (r : Rest) : Except ReadFault (Directive × Rest) := do
  let (name, r) ← tagHandle r.dropSpaces
  if r.peek != some ' ' then throw .malformed
  let (beginning, r) ← tagName r.dropSpaces
  if endsField r.peek then return (.handle name beginning, r) else throw .malformed

/-- A directive after its percent sign, to the end of the line. -/
def directiveText (r : Rest) : Except ReadFault (Directive × Rest) := do
  let (name, r) ← nameText endsField r
  let (d, r) ← match name with
    | "YAML" => directiveVersion r
    | "TAG" => directiveHandle r
    | _ => pure (.reserved, r.dropLine)
  let r := r.dropSpaces
  let r := if r.peek == some '#' then r.dropLine else r
  if endsLine r.peek then return (d, r.splitBreak.2) else throw .malformed

end Flipbook.Yaml
